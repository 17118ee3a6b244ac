import RunConditions.Proofs.Link

/-!
# A journal of the database side

A backend behaves the same when all that reaches it is written down: each
opening with its parameters, each query with the connection over which it came
and whether that was open, and each closing.
-/

set_option autoImplicit false

namespace RunConditions

inductive Query where
  | select (sql : String)
  | update (sql : String)
  deriving DecidableEq, Repr

inductive Event (b : Backend) where
  | opening (p : Parameters)
  | query (h : b.Handle) (q : Query) (isOpen : Bool)
  | closing (h : b.Handle)

/-- The backend with a journal of all that has reached it, in order. -/
def Backend.journaled (b : Backend) : Backend where
  World := b.World × List (Event b)
  Handle := b.Handle
  connect p w := ((b.connect p w.1).1, (b.connect p w.1).2, w.2 ++ [.opening p])
  select h sql w := ((b.select h sql w.1).1, (b.select h sql w.1).2,
    w.2 ++ [.query h (.select sql) (!b.isClosed h w.1)])
  update h sql w := ((b.update h sql w.1).1, (b.update h sql w.1).2,
    w.2 ++ [.query h (.update sql) (!b.isClosed h w.1)])
  close h w := ((b.close h w.1).1, (b.close h w.1).2, w.2 ++ [.closing h])
  isClosed h w := b.isClosed h w.1

namespace Link

variable {b : Backend} {l : Link b.journaled} {h : b.Handle}

def journal (l : Link b.journaled) : List (Event b) :=
  l.world.2

structure Holds (l : Link b.journaled) (h : b.Handle) : Prop where
  handle : l.handle = some h
  isOpen : b.isClosed h l.world.1 = false

theorem isConnected_iff_holds : l.isConnected = true ↔ ∃ h, l.Holds h := by
  rw [isConnected_eq_true]
  constructor
  · rintro ⟨h, hh, ho⟩
    exact ⟨h, hh, ho⟩
  · rintro ⟨h, hl⟩
    exact ⟨h, hl.handle, hl.isOpen⟩

theorem Holds.isConnected (hl : l.Holds h) : l.isConnected = true :=
  isConnected_iff_holds.mpr ⟨h, hl⟩

theorem Holds.final_select (hl : l.Holds h) (sql : String) :
    final (select sql) l = l.moved ((b.select h sql l.world.1).2,
      l.journal ++ [.query h (.select sql) true]) := by
  rw [select, final, use_eq_act (b := b.journaled) hl.handle hl.isOpen, ← final, final_act]
  simp only [Backend.journaled, hl.isOpen, Bool.not_false, journal]

theorem Holds.final_update (hl : l.Holds h) (sql : String) :
    final (update sql) l = l.moved ((b.update h sql l.world.1).2,
      l.journal ++ [.query h (.update sql) true]) := by
  rw [update, final, use_eq_act (b := b.journaled) hl.handle hl.isOpen, ← final, final_act]
  simp only [Backend.journaled, hl.isOpen, Bool.not_false, journal]

theorem Holds.outcome_forceDisconnect (hl : l.Holds h) :
    outcome forceDisconnect l = (b.close h l.world.1).1.map fun _ => true := by
  have hc := forceDisconnect_of_open (b := b.journaled) hl.handle hl.isOpen
  rw [outcome, hc]
  cases hclose : (b.close h l.world.1).1 <;> simp only [Backend.journaled, hclose] <;> rfl

theorem Holds.final_forceDisconnect (hl : l.Holds h) :
    final forceDisconnect l =
      { world := ((b.close h l.world.1).2, l.journal ++ [.closing h]) } := by
  have hc := forceDisconnect_of_open (b := b.journaled) hl.handle hl.isOpen
  rw [final, hc]
  cases hclose : (b.close h l.world.1).1 <;> simp only [Backend.journaled, hclose, journal]

end Link
end RunConditions
