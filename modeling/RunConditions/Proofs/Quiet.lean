import RunConditions.Proofs.Journal
import RunConditions.Proofs.Parallel
import RunConditions.Proofs.Requests

/-!
# Work that only queries

What is done on a connection between opening and closing leaves the connection
and its parameters alone: it queries the database and nothing else. So do the
insertion of a collection and of a record, and so do lookups, if the converters
leave the connection alone, as all those do that ship.
-/

set_option autoImplicit false

namespace RunConditions

variable {b : Backend} {α β : Type}

namespace Link

variable {h : b.Handle} {l l' l'' : Link b.journaled}

/-- From one link to the other these queries have come over the connection, and
nothing else has happened. -/
def Queried (h : b.Handle) (l : Link b.journaled) (asked : List Query) (l' : Link b.journaled) :
    Prop :=
  ∃ w, l' = l.moved (w, l.journal ++ asked.map (.query h · true))

theorem Queried.refl (h : b.Handle) (l : Link b.journaled) : l.Queried h [] l := by
  refine ⟨l.world.1, ?_⟩
  rw [List.map_nil, List.append_nil]
  rfl

theorem Queried.trans {asked asked' : List Query} (hl : l.Queried h asked l')
    (hl' : l'.Queried h asked' l'') : l.Queried h (asked ++ asked') l'' := by
  obtain ⟨w, rfl⟩ := hl
  obtain ⟨w', rfl⟩ := hl'
  refine ⟨w', ?_⟩
  simp [moved, journal]

theorem queried_select (hh : l.handle = some h) (sql : String) :
    ∃ asked, l.Queried h asked (final (select sql) l) := by
  cases hc : b.isClosed h l.world.1 with
  | false => exact ⟨[.select sql], _, (Holds.mk hh hc).final_select sql⟩
  | true =>
    refine ⟨[], ?_⟩
    rw [final, select, use_eq_error (isConnected_of_closed (b := b.journaled) hh hc)]
    exact .refl h l

theorem queried_update (hh : l.handle = some h) (sql : String) :
    ∃ asked, l.Queried h asked (final (update sql) l) := by
  cases hc : b.isClosed h l.world.1 with
  | false => exact ⟨[.update sql], _, (Holds.mk hh hc).final_update sql⟩
  | true =>
    refine ⟨[], ?_⟩
    rw [final, update, use_eq_error (isConnected_of_closed (b := b.journaled) hh hc)]
    exact .refl h l

end Link

def Request.leavesConnection : Request → Bool
  | connect | disconnect _ | forceDisconnect | setParameters _ => false
  | _ => true

/-- A plan that leaves the connection to the caller in all its requests. -/
def Plan.Quiet : Plan α → Prop
  | done _ => True
  | fail _ => True
  | ask q next => q.leavesConnection = true ∧ ∀ answer, (next answer).Quiet

theorem Plan.quiet_iff_only {p : Plan α} : p.Quiet ↔ p.Only Request.leavesConnection := by
  induction p with
  | done a => exact Iff.rfl
  | fail e => exact Iff.rfl
  | ask q next ih => exact and_congr_right fun _ => forall_congr' ih

theorem Plan.Only.quiet {p : Plan α} (hp : p.Only Request.reads) : p.Quiet := by
  apply Plan.quiet_iff_only.mpr
  apply hp.mono
  intro q hq
  cases q <;> first | rfl | cases hq

def Converters.Quiet (cs : Converters) : Prop :=
  ∀ k c, cs.find? k = some c → ∀ name, (c.plan name).Quiet

theorem Converter.shipped_quiet {k : Kind} {c : Converter} (h : Converter.shipped k = some c)
    (name : String) : (c.plan name).Quiet :=
  (shipped_reads h name).quiet

namespace Manager

theorem Shipped.quiet {m : Manager b} (hm : m.Shipped) : m.converters.Quiet :=
  fun k c hc => Converter.shipped_quiet (hm k c hc)

structure Since (cs : Converters) (h : b.Handle) (l : Link b.journaled)
    (m : Manager b.journaled) : Prop where
  converters : m.converters = cs
  handle : m.link.handle = some h
  queried : ∃ asked, l.Queried h asked m.link

theorem Since.refl {m : Manager b.journaled} {h : b.Handle} (hh : m.link.handle = some h) :
    Since m.converters h m.link m :=
  ⟨rfl, hh, [], .refl h m.link⟩

section Working

variable {cs : Converters} {h : b.Handle} {l : Link b.journaled}

theorem onLink_since {x : EStateM Error (Link b.journaled) α}
    (hx : ∀ l : Link b.journaled, l.handle = some h → ∃ asked, l.Queried h asked (final x l)) :
    Keeps (Since cs h l) (onLink x) := by
  intro m hm
  rw [final_onLink]
  obtain ⟨asked, hasked⟩ := hm.queried
  obtain ⟨asked', hasked'⟩ := hx m.link hm.handle
  refine ⟨hm.converters, ?_, asked ++ asked', hasked.trans hasked'⟩
  obtain ⟨w, hw⟩ := hasked'
  rw [hw]
  exact hm.handle

theorem select_since (sql : String) : Keeps (Since cs h l) (select sql) :=
  onLink_since fun _ hh => Link.queried_select hh sql

theorem update_since (sql : String) : Keeps (Since cs h l) (update sql) :=
  onLink_since fun _ hh => Link.queried_update hh sql

theorem addRecord_since (record : Record) : Keeps (Since cs h l) (addRecord record) := by
  apply Alike.keeps
  apply addRecord_alike record
  · rintro m _ ⟨rfl, -⟩
    rfl
  · rintro m _ ⟨rfl, -⟩
    rfl
  · intro sql
    exact (update_since sql).alike
  · rintro m _ ⟨rfl, hm⟩
    exact ⟨rfl, hm.converters, hm.handle, hm.queried⟩

theorem insertCollection_since (t : Table) (collection : Option Int) (data : DataFile) :
    Keeps (Since cs h l) (CommandLine.insertCollection t collection data) := by
  apply Alike.keeps
  apply CommandLine.insertCollection_alike rfl rfl
  · apply CommandLine.freeCollection_alike
    · rintro m _ ⟨rfl, -⟩
      rfl
    · exact fun sql => (select_since sql).alike
  · exact fun sql => (update_since sql).alike

theorem perform_since {look : (k : Kind) → String → Step b.journaled k.Data}
    (hlook : ∀ k name, Keeps (Since cs h l) (look k name)) {q : Request}
    (hq : q.leavesConnection = true) : Keeps (Since cs h l) (perform look q) := by
  cases q with
  | view => exact fun _ hm => hm
  | lookup kind name => exact hlook kind name
  | openText name =>
    apply Alike.keeps
    apply openText_alike name
    rintro m _ ⟨rfl, -⟩
    rfl
  | select sql => exact select_since sql
  | update sql => exact update_since sql
  | addRecord record => exact addRecord_since record
  | setReader reader => exact fun _ hm => ⟨hm.converters, hm.handle, hm.queried⟩
  | connect => cases hq
  | disconnect openedHere => cases hq
  | forceDisconnect => cases hq
  | setParameters p => cases hq

theorem lookup_since (hcs : cs.Quiet) (depth : Nat) (k : Kind) (name : String) :
    Keeps (Since cs h l) (lookup depth k name) := by
  apply Alike.keeps
  apply lookup_both
  intro depth k name hlook
  apply materialize_both
  · intro m c hm hc
    rw [hm.converters] at hc
    have hperform := fun q => perform_since (q := q) fun k name => (hlook k name).keeps
    exact (carryOut_keeps hperform (Plan.quiet_iff_only.mp (hcs k c hc name))).alike
  · intro _ m c payload _ _ _ hm _
    exact ⟨hm.converters, hm.handle, hm.queried⟩

theorem findRecords_since (hcs : cs.Quiet) (name : String) :
    Keeps (Since cs h l) (findRecords name) :=
  have hquiet := (Plan.findRecords_reads name).quiet
  carryOut_keeps (fun _ => perform_since (lookup_since hcs nestingLimit))
    (Plan.quiet_iff_only.mp hquiet)

end Working
end Manager
end RunConditions
