import RunConditions.Channel
import RunConditions.Record

/-!
# Conditions data

Each kind has its type of data. A payload is data together with its kind, and
it can be taken as data of a wanted kind only if that is its own.
-/

set_option autoImplicit false

namespace RunConditions

structure Detector where
  name : String
  xml : String
  deriving DecidableEq, Repr

namespace RowType

abbrev Row : RowType → Type
  | record => Record
  | channel _ => ChannelRow

def read : (r : RowType) → Fields → Except Error r.Row
  | record => Record.read
  | channel t => ChannelRow.read t

def rowId : (r : RowType) → r.Row → Int
  | record => Record.id
  | channel _ => ChannelRow.id

end RowType

abbrev Kind.Data : Kind → Type
  | .collection c => Collection c.row.Row
  | .detector => Detector
  | .text => String

structure Payload where
  kind : Kind
  data : kind.Data

namespace Payload

def as? (p : Payload) (k : Kind) : Option k.Data :=
  if h : p.kind = k then some (h ▸ p.data) else none

theorem as?_mk (k : Kind) (d : k.Data) : (Payload.mk k d).as? k = some d := by
  simp [as?]

theorem as?_eq_some_iff {p : Payload} {k : Kind} {d : k.Data} :
    p.as? k = some d ↔ p = ⟨k, d⟩ := by
  constructor
  · intro h
    rw [as?] at h
    split at h
    · rename_i hk
      subst hk
      rw [← Option.some.inj h]
    · cases h
  · rintro rfl
    exact as?_mk k d

theorem as?_eq_none_iff {p : Payload} {k : Kind} : p.as? k = none ↔ p.kind ≠ k := by
  simp only [as?, ne_eq]
  split <;> simp_all

end Payload
end RunConditions
