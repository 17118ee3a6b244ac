import RunConditions.Proofs.Sharing

/-!
# Which parameters the next opening uses

New parameters leave an open connection as it is and wait for the next opening.
They are used if the connection has been lost by itself by then. If it has been
closed they are gone, like those that it was opened with, and opening fails
until parameters are set again.
-/

set_option autoImplicit false

namespace RunConditions
namespace Link

variable {b : Backend}

/-- What is done to a link, and changes that the database side makes by itself. -/
inductive Call (b : Backend) where
  | setParameters (p : Parameters)
  | connect
  | disconnect (openedHere : Bool)
  | forceDisconnect
  | select (sql : String)
  | update (sql : String)
  | drift (world : b.World)

namespace Call

def final : Call b → Link b.journaled → Link b.journaled
  | setParameters p => RunConditions.final (Link.setParameters p)
  | connect => RunConditions.final Link.connect
  | disconnect openedHere => RunConditions.final (Link.disconnect openedHere)
  | forceDisconnect => RunConditions.final Link.forceDisconnect
  | select sql => RunConditions.final (Link.select sql)
  | update sql => RunConditions.final (Link.update sql)
  | drift world => fun l => l.moved (world, l.journal)

/-- Calls that close what is open, by force or by the one who opened it. -/
def Closes : Call b → Prop
  | disconnect openedHere => openedHere = true
  | forceDisconnect => True
  | _ => False

end Call

def afterCalls (calls : List (Call b)) (l : Link b.journaled) : Link b.journaled :=
  calls.foldl (fun l call => call.final l) l

def NothingSet (calls : List (Call b)) : Prop :=
  ∀ p, .setParameters p ∉ calls

theorem NothingSet.of_cons {call : Call b} {calls : List (Call b)}
    (h : NothingSet (call :: calls)) : (∀ p, call ≠ .setParameters p) ∧ NothingSet calls := by
  constructor
  · rintro p rfl
    exact h p List.mem_cons_self
  · intro p hmem
    exact h p (List.mem_cons_of_mem _ hmem)

theorem parameters_connect (l : Link b) :
    (RunConditions.final Link.connect l).parameters = l.parameters := by
  cases hc : l.isConnected with
  | true => rw [RunConditions.final, connect_eq_ok hc]
  | false =>
    cases hp : l.parameters with
    | none => rw [RunConditions.final, connect_of_no_parameters hc hp, hp]
    | some p =>
      rw [RunConditions.final, connect_of_parameters hc hp]
      cases (b.connect p l.world).1 <;> exact hp

/-- There is neither a connection nor anything to open one with. -/
def Bare (l : Link b) : Prop :=
  l.parameters = none ∧ l.handle = none

theorem Call.bare_of_closes {call : Call b} (h : call.Closes) (l : Link b.journaled) :
    (call.final l).Bare := by
  have hforce : (RunConditions.final Link.forceDisconnect l).Bare := by
    obtain ⟨w, hw⟩ := final_forceDisconnect l
    rw [hw]
    exact ⟨rfl, rfl⟩
  cases call with
  | forceDisconnect => exact hforce
  | disconnect openedHere =>
    obtain rfl : openedHere = true := h
    exact hforce
  | _ => cases h

theorem Bare.connect {l : Link b} (h : l.Bare) :
    Link.connect l = .error (.configuration .noParameters) l := by
  have hc : l.isConnected = false := by simp [isConnected, h.2]
  exact connect_of_no_parameters hc h.1

theorem Call.keeps {call : Call b} (hset : ∀ p, call ≠ .setParameters p)
    (hclose : ¬ call.Closes) (l : Link b.journaled) :
    (call.final l).parameters = l.parameters ∧ (l.Bare → (call.final l).Bare) := by
  cases call with
  | setParameters p => exact absurd rfl (hset p)
  | connect =>
    refine ⟨parameters_connect l, ?_⟩
    intro h
    rw [Call.final, RunConditions.final, h.connect]
    exact h
  | disconnect openedHere =>
    cases openedHere with
    | false => exact ⟨rfl, id⟩
    | true => exact absurd rfl hclose
  | forceDisconnect => exact absurd trivial hclose
  | select sql =>
    obtain ⟨w, hw⟩ := final_use b.journaled.select sql l
    rw [Call.final, Link.select, hw]
    exact ⟨rfl, id⟩
  | update sql =>
    obtain ⟨w, hw⟩ := final_use b.journaled.update sql l
    rw [Call.final, Link.update, hw]
    exact ⟨rfl, id⟩
  | drift world => exact ⟨rfl, id⟩

theorem Call.bare {call : Call b} (hset : ∀ p, call ≠ .setParameters p) {l : Link b.journaled}
    (h : l.Bare) : (call.final l).Bare := by
  by_cases hclose : call.Closes
  · exact call.bare_of_closes hclose l
  · exact (call.keeps hset hclose l).2 h

theorem bare_afterCalls {calls : List (Call b)} (hset : NothingSet calls) {l : Link b.journaled}
    (h : l.Bare) : (afterCalls calls l).Bare := by
  induction calls generalizing l with
  | nil => exact h
  | cons call calls ih =>
    obtain ⟨hcall, hrest⟩ := hset.of_cons
    exact ih hrest (call.bare hcall h)

theorem bare_of_closes {calls : List (Call b)} (hset : NothingSet calls)
    (hclose : ∃ call ∈ calls, call.Closes) (l : Link b.journaled) :
    (afterCalls calls l).Bare := by
  induction calls generalizing l with
  | nil =>
    obtain ⟨call, hmem, -⟩ := hclose
    cases hmem
  | cons call calls ih =>
    obtain ⟨-, hrest⟩ := hset.of_cons
    obtain ⟨closing, hmem, hclosing⟩ := hclose
    rcases List.mem_cons.mp hmem with rfl | hmem
    · exact bare_afterCalls hrest (closing.bare_of_closes hclosing l)
    · exact ih hrest ⟨closing, hmem, hclosing⟩ (call.final l)

theorem parameters_afterCalls {calls : List (Call b)} (hset : NothingSet calls)
    (hclose : ∀ call ∈ calls, ¬ call.Closes) (l : Link b.journaled) :
    (afterCalls calls l).parameters = l.parameters := by
  induction calls generalizing l with
  | nil => rfl
  | cons call calls ih =>
    obtain ⟨hcall, hrest⟩ := hset.of_cons
    rw [List.forall_mem_cons] at hclose
    calc (afterCalls calls (call.final l)).parameters
        = (call.final l).parameters := ih hrest hclose.2 _
      _ = l.parameters := (call.keeps hcall hclose.1 l).1

/-- Opening asks for a connection with the parameters of the link, once. -/
theorem connect_opens {l : Link b.journaled} (hc : l.isConnected = false) {p : Parameters}
    (hp : l.parameters = some p) :
    outcome Link.connect l = (b.connect p l.world.1).1.map (fun _ => true) ∧
      (RunConditions.final Link.connect l).journal = l.journal ++ [.opening p] := by
  rw [outcome, RunConditions.final, connect_of_parameters hc hp]
  simp only [Backend.journaled]
  cases (b.connect p l.world.1).1 <;> exact ⟨rfl, rfl⟩

/-- After parameters have been set, over an open connection or not, and no others since:
an open connection stays what it is. If nothing has been closed since, the next opening
uses the parameters. If something has been closed, however that went, they are gone,
and opening fails before anything reaches the database. -/
theorem next_opening (l : Link b.journaled) (q : Parameters) {calls : List (Call b)}
    (hset : NothingSet calls) :
    let later := afterCalls calls (RunConditions.final (setParameters q) l)
    (later.isConnected = true → Link.connect later = .ok false later) ∧
      ((∀ call ∈ calls, ¬ call.Closes) → later.isConnected = false →
        outcome Link.connect later = (b.connect q later.world.1).1.map (fun _ => true) ∧
          (RunConditions.final Link.connect later).journal = later.journal ++ [.opening q]) ∧
      ((∃ call ∈ calls, call.Closes) →
        Link.connect later = .error (.configuration .noParameters) later) := by
  intro later
  refine ⟨connect_eq_ok, ?_, ?_⟩
  · intro hclose hc
    have hp : later.parameters = some q := parameters_afterCalls hset hclose _
    exact connect_opens hc hp
  · intro hclose
    exact (bare_of_closes hset hclose _).connect

end Link

namespace Script

def otherParameters : Parameters :=
  { parameters with database := "hps_conditions_copy" }

def held : Link backend.journaled where
  parameters := some parameters
  handle := some ()
  world := ({ closeFails := true, closed := false }, [.opening parameters])

def untilLost : List (Link.Call backend) :=
  [.select "SELECT 1", .connect, .drift { closed := true }]

def untilClosedHere : List (Link.Call backend) :=
  [.forceDisconnect, .disconnect false, .select "SELECT 1"]

theorem nothingSet_untilLost : Link.NothingSet untilLost := by
  intro p hmem
  simp [untilLost] at hmem

theorem nothingSet_untilClosedHere : Link.NothingSet untilClosedHere := by
  intro p hmem
  simp [untilClosedHere] at hmem

theorem held_next_opening :
    Link.NothingSet untilLost ∧ Link.NothingSet untilClosedHere ∧
      (final Link.connect
          (Link.afterCalls untilLost (final (Link.setParameters otherParameters) held))).journal =
        [.opening parameters, .query () (.select "SELECT 1") true, .opening otherParameters] ∧
      outcome Link.connect
          (Link.afterCalls untilClosedHere (final (Link.setParameters otherParameters) held)) =
        .error (.configuration .noParameters) := by
  refine ⟨nothingSet_untilLost, nothingSet_untilClosedHere, ?_, ?_⟩
  · have hclose : ∀ call ∈ untilLost, ¬ call.Closes := by
      simp [untilLost, Link.Call.Closes]
    exact ((Link.next_opening held otherParameters nothingSet_untilLost).2.1 hclose rfl).2
  · have hclose : ∃ call ∈ untilClosedHere, call.Closes :=
      ⟨.forceDisconnect, List.mem_cons_self, trivial⟩
    rw [outcome, (Link.next_opening held otherParameters nothingSet_untilClosedHere).2.2 hclose]

/-- The parameters are set over an open connection, which is then closed, and opening
finds none. -/
theorem new_parameters_dropped :
    held.Holds () ∧
      (final (Link.setParameters otherParameters) held).parameters = some otherParameters ∧
      outcome Link.connect
          (final Link.forceDisconnect (final (Link.setParameters otherParameters) held)) =
        .error (.configuration .noParameters) :=
  ⟨⟨rfl, rfl⟩, rfl, rfl⟩

end Script
end RunConditions
