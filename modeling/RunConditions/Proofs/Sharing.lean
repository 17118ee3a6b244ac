import RunConditions.Database.Script
import RunConditions.Proofs.Journal
import RunConditions.Proofs.Stable

/-!
# Callers that share a connection

A caller opens the connection, works, and closes it with the answer that it got
from opening. Its work is a tree: it asks, changes, and calls further callers
that do the same, and goes on by what came of each. Only the caller that finds
the connection shut opens and closes it, and everything below it reaches the
database over the one connection.
-/

set_option autoImplicit false

namespace RunConditions

/-- What a caller does between opening and closing. -/
inductive Work where
  | done
  | select (sql : String) (next : Except Error ResultSet → Work)
  | update (sql : String) (next : Except Error (List Int) → Work)
  | call (child : Work) (next : Except Error Bool → Work)

def Link.sharing {b : Backend} (work : EStateM Error (Link b) (List Query)) :
    EStateM Error (Link b) (List Query × Except Error Bool) := do
  let openedHere ← connect
  let asked ← work
  return (asked, ← attempt (disconnect openedHere))

def Work.carryOut {b : Backend} : Work → EStateM Error (Link b) (List Query)
  | done => return []
  | select sql next => do
    let answer ← attempt (Link.select sql)
    return .select sql :: (← (next answer).carryOut)
  | update sql next => do
    let answer ← attempt (Link.update sql)
    return .update sql :: (← (next answer).carryOut)
  | call child next => do
    match ← attempt (Link.sharing child.carryOut) with
    | .ok (asked, closed) => return asked ++ (← (next closed).carryOut)
    | .error e => (next (.error e)).carryOut

structure Backend.StaysOpen (b : Backend) : Prop where
  select : ∀ h sql w, b.isClosed h w = false → b.isClosed h (b.select h sql w).2 = false
  update : ∀ h sql w, b.isClosed h w = false → b.isClosed h (b.update h sql w).2 = false

namespace Link

variable {b : Backend} {h : b.Handle} {l l' l'' : Link b.journaled}

/-- From one link to the other these queries have come over the open connection
and nothing else has happened. The connection is still open. -/
def Asked (h : b.Handle) (l : Link b.journaled) (asked : List Query) (l' : Link b.journaled) :
    Prop :=
  ∃ w, b.isClosed h w = false ∧ l' = l.moved (w, l.journal ++ asked.map (.query h · true))

theorem Asked.holds {asked : List Query} (hl : l.Holds h) (ha : Asked h l asked l') :
    l'.Holds h := by
  obtain ⟨w, hw, rfl⟩ := ha
  exact ⟨hl.handle, hw⟩

theorem Asked.nil (hl : l.Holds h) : Asked h l [] l := by
  refine ⟨l.world.1, hl.isOpen, ?_⟩
  rw [List.map_nil, List.append_nil]
  rfl

theorem Asked.append {asked asked' : List Query} (ha : Asked h l asked l')
    (ha' : Asked h l' asked' l'') : Asked h l (asked ++ asked') l'' := by
  obtain ⟨w, -, rfl⟩ := ha
  obtain ⟨w', hw', rfl⟩ := ha'
  refine ⟨w', hw', ?_⟩
  simp [moved, Link.journal]

theorem Holds.asked_select (hb : b.StaysOpen) (hl : l.Holds h) (sql : String) :
    Asked h l [.select sql] (final (select sql) l) :=
  ⟨_, hb.select h sql _ hl.isOpen, hl.final_select sql⟩

theorem Holds.asked_update (hb : b.StaysOpen) (hl : l.Holds h) (sql : String) :
    Asked h l [.update sql] (final (update sql) l) :=
  ⟨_, hb.update h sql _ hl.isOpen, hl.final_update sql⟩

/-- A caller that finds the connection open leaves it as its work leaves it. -/
theorem sharing_of_connected {b : Backend} {l l' : Link b} (hl : l.isConnected = true)
    {work : EStateM Error (Link b) (List Query)} {asked : List Query}
    (hw : work l = .ok asked l') : sharing work l = .ok (asked, .ok false) l' := by
  simp only [sharing, bind_apply, connect_eq_ok hl, hw, attempt, disconnect, Bool.false_eq_true,
    if_false, pure_apply]

theorem Holds.carryOut (hb : b.StaysOpen) (hl : l.Holds h) (work : Work) :
    ∃ asked l', work.carryOut l = .ok asked l' ∧ Asked h l asked l' := by
  induction work generalizing l with
  | done => exact ⟨[], l, rfl, .nil hl⟩
  | select sql next ih =>
    have hstep := hl.asked_select hb sql
    obtain ⟨asked, l', hnext, ha⟩ := ih (outcome (Link.select sql) l) (hstep.holds hl)
    refine ⟨.select sql :: asked, l', ?_, hstep.append ha⟩
    rw [Work.carryOut, bind_apply, apply_eq_ok (outcome_attempt _ _), final_attempt]
    simp only [bind_apply, hnext, pure_apply]
  | update sql next ih =>
    have hstep := hl.asked_update hb sql
    obtain ⟨asked, l', hnext, ha⟩ := ih (outcome (Link.update sql) l) (hstep.holds hl)
    refine ⟨.update sql :: asked, l', ?_, hstep.append ha⟩
    rw [Work.carryOut, bind_apply, apply_eq_ok (outcome_attempt _ _), final_attempt]
    simp only [bind_apply, hnext, pure_apply]
  | call child next ihchild ihnext =>
    -- The child finds the connection open, so that closing it is left undone.
    obtain ⟨asked, l', hchild, ha⟩ := ihchild hl
    obtain ⟨asked', l'', hnext, ha'⟩ := ihnext (.ok false) (ha.holds hl)
    refine ⟨asked ++ asked', l'', ?_, ha.append ha'⟩
    rw [Work.carryOut, bind_apply, attempt, sharing_of_connected hl.isConnected hchild]
    simp only [bind_apply, hnext, pure_apply]

structure Opens (l : Link b.journaled) (p : Parameters) (h : b.Handle) : Prop where
  notConnected : l.isConnected = false
  parameters : l.parameters = some p
  connects : (b.connect p l.world.1).1 = .ok h
  isOpen : b.isClosed h (b.connect p l.world.1).2 = false

theorem Opens.connect {p : Parameters} (hl : l.Opens p h) :
    ∃ opened, connect l = .ok true opened ∧ opened.Holds h ∧
      opened.journal = l.journal ++ [.opening p] := by
  have hc := connect_of_parameters hl.notConnected hl.parameters
  simp only [Backend.journaled, hl.connects] at hc
  exact ⟨_, hc, ⟨rfl, hl.isOpen⟩, rfl⟩

/-- A caller that opens the connection closes it again. -/
theorem sharing_of_opened {b : Backend} {l opened l' : Link b} (hl : connect l = .ok true opened)
    {work : EStateM Error (Link b) (List Query)} {asked : List Query}
    (hw : work opened = .ok asked l') :
    sharing work l = .ok (asked, outcome forceDisconnect l') (final forceDisconnect l') := by
  simp only [sharing, bind_apply, hl, hw, disconnect, if_true]
  rw [apply_eq_ok (outcome_attempt _ _), final_attempt]
  rfl

/-- The links that can be had from one without connection and parameters, the
database side changing by itself in between. -/
inductive Reachable {b : Backend} : Link b → Prop
  | new (world : b.World) : Reachable { world }
  | setParameters {l : Link b} (p : Parameters) :
      Reachable l → Reachable (final (setParameters p) l)
  | connect {l : Link b} : Reachable l → Reachable (final connect l)
  | disconnect {l : Link b} (openedHere : Bool) :
      Reachable l → Reachable (final (disconnect openedHere) l)
  | forceDisconnect {l : Link b} : Reachable l → Reachable (final forceDisconnect l)
  | select {l : Link b} (sql : String) : Reachable l → Reachable (final (select sql) l)
  | update {l : Link b} (sql : String) : Reachable l → Reachable (final (update sql) l)
  | drift {l : Link b} (world : b.World) : Reachable l → Reachable (l.moved world)

def Furnished {b : Backend} (l : Link b) : Prop :=
  l.handle.isSome → l.parameters.isSome

theorem connect_furnished {b : Backend} {l : Link b} (hl : l.Furnished) :
    (final connect l).Furnished := by
  cases hc : l.isConnected with
  | true =>
    rw [final, connect_eq_ok hc]
    exact hl
  | false =>
    cases hp : l.parameters with
    | none =>
      rw [final, connect_of_no_parameters hc hp]
      exact hl
    | some p =>
      rw [final, connect_of_parameters hc hp]
      cases (b.connect p l.world).1 with
      | error e => exact hl
      | ok h => exact fun _ => by simp [hp]

theorem forceDisconnect_furnished {b : Backend} (l : Link b) :
    (final forceDisconnect l).Furnished := by
  obtain ⟨w, hw⟩ := final_forceDisconnect l
  rw [hw]
  exact fun hnone => hnone

theorem use_furnished {b : Backend} {α : Type} {l : Link b} (hl : l.Furnished)
    (f : b.Handle → String → b.World → Except Error α × b.World) (sql : String) :
    (final (use f sql) l).Furnished := by
  obtain ⟨w, hw⟩ := final_use f sql l
  rw [hw]
  exact hl

theorem Reachable.furnished {b : Backend} {l : Link b} (hl : l.Reachable) : l.Furnished := by
  induction hl with
  | new world => exact fun hnone => hnone
  | setParameters p _ _ => exact fun _ => rfl
  | connect _ ih => exact connect_furnished ih
  | @disconnect l openedHere _ ih =>
    cases openedHere with
    | false => exact ih
    | true => exact forceDisconnect_furnished l
  | @forceDisconnect l _ _ => exact forceDisconnect_furnished l
  | select sql _ ih => exact use_furnished ih _ sql
  | update sql _ ih => exact use_furnished ih _ sql
  | drift world _ ih => exact ih

theorem Reachable.hasParameters {b : Backend} {l : Link b} (hl : l.Reachable)
    (hc : l.isConnected = true) : l.parameters.isSome = true := by
  obtain ⟨h, hh, -⟩ := isConnected_eq_true.mp hc
  apply hl.furnished
  rw [hh]
  rfl

end Link

namespace Manager

variable {b : Backend}

def Linked (m : Manager b) : Prop :=
  m.link.Reachable

theorem onLink_linked {α : Type} {x : EStateM Error (Link b) α}
    (h : Keeps Link.Reachable x) : Keeps (Linked (b := b)) (onLink x) := by
  intro m hm
  rw [Linked, final_onLink]
  exact h m.link hm

theorem linked_kept : Kept (Linked (b := b)) where
  connect := onLink_linked fun _ => .connect
  disconnect openedHere := onLink_linked fun _ => .disconnect openedHere
  forceDisconnect := onLink_linked fun _ => .forceDisconnect
  setParameters p := onLink_linked fun _ => .setParameters p
  select sql := onLink_linked fun _ => .select sql
  update sql := onLink_linked fun _ => .update sql
  reader _ _ h := h
  shared _ h := h
  withoutRecords _ h := h
  cached _ _ _ _ _ _ _ _ _ _ h _ := h
  setUp _ _ _ h _ := h
  switched _ _ _ h := h

theorem setDetector_apply_of_connected {m : Manager b} (hl : m.Linked)
    (hc : m.isConnected = true) (detector : String) (run : Int) :
    setDetector detector run m = .ok ⟨⟩ (m.switched detector run) := by
  have hp : m.hasParameters = true := hl.hasParameters hc
  simp only [setDetector, bind_apply, get_apply, hp, hc, if_true, modify_apply,
    switched]

/-- Of callers within callers only the first one opens the connection, if it was
not open, and only that one closes it. All that they ask comes over the open
connection. There is no connection without parameters, so that a connected
manager can take every detector and run. -/
theorem callers_share (b : Backend) :
    (b.StaysOpen → ∀ (work : Work) (l : Link b.journaled),
      (∀ p h, l.Opens p h → ∃ opened asked done,
        Link.connect l = .ok true opened ∧ opened.journal = l.journal ++ [.opening p] ∧
        work.carryOut opened = .ok asked done ∧ Link.Asked h opened asked done ∧
        Link.sharing work.carryOut l =
          .ok (asked, (b.close h done.world.1).1.map fun _ => true)
            { world := ((b.close h done.world.1).2, done.journal ++ [.closing h]) }) ∧
      ∀ h, l.Holds h → ∃ asked done,
        work.carryOut l = .ok asked done ∧ Link.Asked h l asked done ∧
        Link.sharing work.carryOut l = .ok (asked, .ok false) done) ∧
    (∀ l : Link b, l.Reachable → l.isConnected = true → l.parameters.isSome = true) ∧
    (∀ types reader (w : b.World), (Manager.new types reader w).Linked) ∧
    ∀ m : Manager b, m.Linked →
      (∀ op : Operation, (final op.run m).Linked) ∧ (∀ w, (m.moved w).Linked) ∧
      (m.isConnected = true → ∀ detector run,
        setDetector detector run m = .ok ⟨⟩ (m.switched detector run)) := by
  refine ⟨fun hb work l => ⟨fun p h hl => ?_, fun h hl => ?_⟩, fun l hl => hl.hasParameters,
    fun types reader w => .new w, ?_⟩
  · obtain ⟨opened, hconnect, hholds, hopening⟩ := hl.connect
    obtain ⟨asked, done, hwork, hasked⟩ := hholds.carryOut hb work
    refine ⟨opened, asked, done, hconnect, hopening, hwork, hasked, ?_⟩
    have hdone := hasked.holds hholds
    rw [Link.sharing_of_opened hconnect hwork, hdone.outcome_forceDisconnect,
      hdone.final_forceDisconnect]
  · obtain ⟨asked, done, hwork, hasked⟩ := hl.carryOut hb work
    exact ⟨asked, done, hwork, hasked, Link.sharing_of_connected hl.isConnected hwork⟩
  · intro m hm
    exact ⟨fun op => linked_kept.run_keeps op m hm, fun w => .drift w hm,
      setDetector_apply_of_connected hm⟩

end Manager

namespace Script

theorem staysOpen : backend.StaysOpen where
  select _ _ _ h := h
  update _ _ _ h := h

def parameters : Parameters :=
  ⟨"t1", "x", "hps_conditions_test", "localhost", 5432, "mock"⟩

def family : Work :=
  .select "first" fun _ =>
    .call (.update "second" fun _ => .call (.select "third" fun _ => .done) fun _ => .done)
      fun _ => .select "fourth" fun _ => .done

def shut : Link backend.journaled where
  parameters := some parameters
  world := ({}, [])

def familyQueries : List Query :=
  [.select "first", .update "second", .select "third", .select "fourth"]

theorem shut_opens : shut.Opens parameters () :=
  ⟨rfl, rfl, rfl, rfl⟩

theorem opened_holds : (final Link.connect shut).Holds () :=
  ⟨rfl, rfl⟩

def connectedManager : Manager backend :=
  final Manager.connect (final (Manager.setParameters parameters)
    (Manager.new .standard (.base Files.none []) {}))

theorem connectedManager_linked : connectedManager.Linked :=
  Manager.linked_kept.connect _ (Manager.linked_kept.setParameters parameters _ (.new _))

theorem family_shares :
    (final (Link.sharing family.carryOut) shut).journal =
        .opening parameters :: familyQueries.map (.query () · true) ++ [.closing ()] ∧
      (∃ opened asked done,
        Link.connect shut = .ok true opened ∧
        opened.journal = shut.journal ++ [.opening parameters] ∧
        family.carryOut opened = .ok asked done ∧ Link.Asked () opened asked done ∧
        Link.sharing family.carryOut shut =
          .ok (asked, (backend.close () done.world.1).1.map fun _ => true)
            { world := ((backend.close () done.world.1).2, done.journal ++ [.closing ()]) }) ∧
      (∃ asked done,
        family.carryOut (final Link.connect shut) = .ok asked done ∧
        Link.Asked () (final Link.connect shut) asked done ∧
        Link.sharing family.carryOut (final Link.connect shut) = .ok (asked, .ok false) done) ∧
      connectedManager.hasParameters = true ∧
      ∀ detector run, Manager.setDetector detector run connectedManager =
        .ok ⟨⟩ (connectedManager.switched detector run) :=
  have hall := Manager.callers_share backend
  have hfamily := hall.1 staysOpen family
  ⟨by simp only [family, Work.carryOut]; rfl,
    (hfamily shut).1 _ _ shut_opens, (hfamily _).2 _ opened_holds,
    hall.2.1 _ connectedManager_linked rfl, (hall.2.2.2 _ connectedManager_linked).2.2 rfl⟩

end Script
end RunConditions
