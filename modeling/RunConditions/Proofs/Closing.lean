import RunConditions.Proofs.Atomicity
import RunConditions.Proofs.Quiet

/-!
# Closing what has been opened

A command does its work on the connection. If it has found the connection open
it leaves it as it is, and if it has opened it, it closes it again, whatever has
become of the work. What it reports is the error of the work, or else the error
of closing, or else what the work has brought.
-/

set_option autoImplicit false

namespace RunConditions.CommandLine
open Manager

variable {b : Backend} {α β : Type}

theorem connected_of_connected {m : Manager b} (hm : m.isConnected = true) (body : Step b α) :
    connected body m = body m := by
  have hconnect : connect m = .ok false m := by
    rw [connect, onLink, Link.connect_eq_ok hm]
  simp only [connected, closeAfter, bind_apply, hconnect, attempt]
  cases body m <;> rfl

theorem connected_of_refused {m refused : Manager b} {e : Error}
    (hm : connect m = .error e refused) (body : Step b α) :
    connected body m = .error e refused := by
  simp only [connected, bind_apply, hm]

/-- The error of the work, or else the error of closing, or else what the work has brought. -/
def settled (worked : Except Error α) (closed : Except Error β) : Except Error α :=
  match worked with
  | .error e => .error e
  | .ok a => closed.map fun _ => a

theorem settled_eq_ok {worked : Except Error α} {closed : Except Error β} {a : α}
    (h : settled worked closed = .ok a) : worked = .ok a := by
  cases worked with
  | error e => cases h
  | ok a' =>
    cases closed with
    | error e => cases h
    | ok c => exact h

theorem settled_eq_error {worked : Except Error α} {closed : Except Error β} {e : Error}
    (h : settled worked closed = .error e) : worked = .error e ∨ closed = .error e := by
  cases worked with
  | error e' => exact Or.inl h
  | ok a =>
    cases closed with
    | error e' => exact Or.inr (by rw [Except.error.inj h])
    | ok c => cases h

section Opened

variable {m begun : Manager b} (hm : connect m = .ok true begun) (body : Step b α)
include hm

theorem outcome_connected :
    outcome (connected body) m =
      settled (outcome body begun) (outcome forceDisconnect (final body begun)) := by
  have hdisconnect : disconnect (b := b) true = forceDisconnect := rfl
  simp only [outcome, final, connected, closeAfter, bind_apply, hm, attempt, hdisconnect]
  cases body begun with
  | error e done =>
    dsimp only
    cases forceDisconnect done <;> rfl
  | ok a done =>
    dsimp only
    cases forceDisconnect done <;> rfl

theorem final_connected :
    final (connected body) m = final forceDisconnect (final body begun) := by
  have hdisconnect : disconnect (b := b) true = forceDisconnect := rfl
  simp only [final, connected, closeAfter, bind_apply, hm, attempt, hdisconnect]
  cases body begun with
  | error e done =>
    dsimp only
    cases forceDisconnect done <;> rfl
  | ok a done =>
    dsimp only
    cases forceDisconnect done <;> rfl

end Opened

theorem connected_map (body : Step b α) (f : α → β) :
    (connected body >>= fun a => pure (f a)) =
      connected (body >>= fun a => pure (f a)) := by
  funext m
  simp only [connected, closeAfter, bind_apply, attempt]
  cases connect m with
  | error e refused => rfl
  | ok openedHere opened =>
    dsimp only
    cases body opened with
    | error e done =>
      dsimp only
      cases disconnect openedHere done <;> rfl
    | ok a done =>
      dsimp only [pure_apply]
      cases disconnect openedHere done <;> rfl

def loadWork (s : Surroundings) (a : LoadArguments) (m : Manager b) :
    Except Error (Step b LoadOutcome) :=
  match m.tables.find? a.table with
  | none => .error (.configuration (.unknownTable a.table))
  | some t => (DataFile.read s.files a.file).map (insertCollection t a.collection)

def AddArguments.record (a : AddArguments) (s : Surroundings) : Record where
  id := 0
  runStart := a.runStart
  runEnd := a.runEnd
  name := a.name
  table := a.table
  collection := a.collection
  tag := a.tag
  createdBy := some (a.user.getD s.user)
  notes := a.notes

def addWork (s : Surroundings) (a : AddArguments) (m : Manager b) : Except Error (Step b Int) :=
  match m.tables.find? a.table with
  | none => .error (.configuration (.unknownTable a.table))
  | some _ =>
    if a.runEnd < a.runStart then .error (.configuration (.emptyRunRange a.runStart a.runEnd))
    else .ok (addRecord (a.record s))

def printWork (a : PrintArguments) : Step b (Collection Record) := do
  let found ← findRecords a.name
  return match a.run with
    | some run => found.validFor run
    | none => found

theorem load_apply (s : Surroundings) (a : LoadArguments) (m : Manager b) :
    load s a m =
      match loadWork s a m with
      | .error e => .error e m
      | .ok body => connected body m := by
  simp only [load, loadWork, configuredTable, bind_apply, get_apply]
  cases m.tables.find? a.table with
  | none => rfl
  | some t =>
    dsimp only [pure_apply]
    cases DataFile.read s.files a.file <;> rfl

theorem add_apply (s : Surroundings) (a : AddArguments) (m : Manager b) :
    add s a m =
      match addWork s a m with
      | .error e => .error e m
      | .ok body => connected body m := by
  simp only [add, addWork, configuredTable, bind_apply, get_apply]
  cases m.tables.find? a.table with
  | none => rfl
  | some t =>
    dsimp only [pure_apply]
    by_cases hrange : a.runEnd < a.runStart
    · simp only [hrange, if_true, bind_apply, throw_apply]
    · simp only [hrange, if_false]
      rfl

theorem loadWork_eq_ok {s : Surroundings} {a : LoadArguments} {m : Manager b}
    {body : Step b LoadOutcome} (h : loadWork s a m = .ok body) :
    ∃ t data, m.tables.find? a.table = some t ∧ DataFile.read s.files a.file = .ok data ∧
      body = insertCollection t a.collection data := by
  rw [loadWork] at h
  cases ht : m.tables.find? a.table with
  | none =>
    rw [ht] at h
    cases h
  | some t =>
    rw [ht] at h
    cases hdata : DataFile.read s.files a.file with
    | error e =>
      rw [hdata] at h
      cases h
    | ok data =>
      rw [hdata] at h
      cases h
      exact ⟨t, data, rfl, rfl, rfl⟩

theorem addWork_eq_ok_iff {s : Surroundings} {a : AddArguments} {m : Manager b}
    {body : Step b Int} :
    addWork s a m = .ok body ↔ (∃ t, m.tables.find? a.table = some t) ∧ a.runStart ≤ a.runEnd ∧
      body = addRecord (a.record s) := by
  rw [addWork]
  cases m.tables.find? a.table with
  | none => simp
  | some t =>
    by_cases hrange : a.runEnd < a.runStart
    · simp [hrange, Int.not_le.mpr hrange]
    · simp [hrange, Int.not_lt.mp hrange, eq_comm]

theorem print_eq (a : PrintArguments) : print (b := b) a = connected (printWork a) :=
  connected_map _ _

def opened (m : Manager b.journaled) (p : Parameters) (h : b.Handle) : Manager b.journaled :=
  { m with
    link := { m.link with
      handle := some h
      world := ((b.connect p m.link.world.1).2, m.link.journal ++ [.opening p]) } }

/-- How a step that works by a body deals with the connection. -/
structure Tidy (x body : Step b.journaled α) (m : Manager b.journaled) : Prop where
  shared : ∀ h, m.link.Holds h →
    outcome x m = outcome body m ∧ ∃ asked, m.link.Queried h asked (final x m).link
  unfurnished : m.isConnected = false → m.link.parameters = none →
    x m = .error (.configuration .noParameters) m
  refused : m.isConnected = false → ∀ p e, m.link.parameters = some p →
    (b.connect p m.link.world.1).1 = .error e →
    x m = .error e (m.moved ((b.connect p m.link.world.1).2, m.link.journal ++ [.opening p]))
  /-- A connection that the step has opened is queried by the body and then
  closed, unless it has been lost by then. Nothing is left of it. -/
  owned : m.isConnected = false → ∀ p h, m.link.parameters = some p →
    (b.connect p m.link.world.1).1 = .ok h → ∃ done asked,
      done = (final body (opened m p h)).link ∧ (opened m p h).link.Queried h asked done ∧
      if b.isClosed h done.world.1 then
        outcome x m = outcome body (opened m p h) ∧ (final x m).link = { world := done.world }
      else
        outcome x m = settled (outcome body (opened m p h)) (b.close h done.world.1).1 ∧
        (final x m).link =
          { world := ((b.close h done.world.1).2, done.journal ++ [.closing h]) }

section Connecting

variable {m : Manager b.journaled} {p : Parameters} {h : b.Handle} {e : Error}

theorem connect_of_opened (hm : m.isConnected = false) (hp : m.link.parameters = some p)
    (hconnect : (b.connect p m.link.world.1).1 = .ok h) :
    connect m = .ok true (opened m p h) := by
  have hlink : m.link.connect = .ok true (opened m p h).link := by
    have hc := Link.connect_of_parameters (b := b.journaled) hm hp
    simp only [Backend.journaled, hconnect] at hc
    exact hc
  rw [connect, onLink, hlink]
  rfl

theorem connect_of_refused (hm : m.isConnected = false) (hp : m.link.parameters = some p)
    (hconnect : (b.connect p m.link.world.1).1 = .error e) :
    connect m =
      .error e (m.moved ((b.connect p m.link.world.1).2, m.link.journal ++ [.opening p])) := by
  have hlink : m.link.connect =
      .error e (m.link.moved ((b.connect p m.link.world.1).2, m.link.journal ++ [.opening p])) := by
    have hc := Link.connect_of_parameters (b := b.journaled) hm hp
    simp only [Backend.journaled, hconnect] at hc
    exact hc
  rw [connect, onLink, hlink]
  rfl

theorem forceDisconnect_of_lost (hh : m.link.handle = some h)
    (hlost : b.isClosed h m.link.world.1 = true) :
    outcome forceDisconnect m = .ok true ∧
      (final forceDisconnect m).link = { world := m.link.world } := by
  have hclosed :=
    Link.forceDisconnect_of_lost (b := b.journaled) (Link.isConnected_of_closed hh hlost)
  rw [forceDisconnect, outcome_onLink, final_onLink, outcome, final, hclosed, hh]
  exact ⟨rfl, rfl⟩

theorem forceDisconnect_of_holds (hm : m.link.Holds h) :
    outcome forceDisconnect m = (b.close h m.link.world.1).1.map (fun _ => true) ∧
      (final forceDisconnect m).link =
        { world := ((b.close h m.link.world.1).2, m.link.journal ++ [.closing h]) } := by
  rw [forceDisconnect, outcome_onLink, final_onLink]
  exact ⟨hm.outcome_forceDisconnect, hm.final_forceDisconnect⟩

theorem settled_map {γ : Type} (worked : Except Error α) (closed : Except Error β) (f : β → γ) :
    settled worked (closed.map f) = settled worked closed := by
  cases worked <;> cases closed <;> rfl

theorem settled_ok (worked : Except Error α) (closed : β) :
    settled worked (.ok closed) = worked := by
  cases worked <;> rfl

end Connecting

theorem connected_tidy (m : Manager b.journaled) {body : Step b.journaled α}
    (hbody : ∀ h l, Keeps (Since m.converters h l) body) : Tidy (connected body) body m where
  shared h hm := by
    have hsame := connected_of_connected hm.isConnected body
    rw [outcome, final, hsame]
    exact ⟨rfl, (hbody h m.link m (.refl hm.handle)).queried⟩
  unfurnished hm hp := by
    have hconnect : connect m = .error (.configuration .noParameters) m := by
      rw [connect, onLink, Link.connect_of_no_parameters hm hp]
    exact connected_of_refused hconnect body
  refused hm p e hp hconnect := connected_of_refused (connect_of_refused hm hp hconnect) body
  owned hm p h hp hconnect := by
    have hopened := connect_of_opened hm hp hconnect
    have hdone : Since m.converters h (opened m p h).link (final body (opened m p h)) :=
      hbody h _ _ ⟨rfl, rfl, [], .refl h _⟩
    obtain ⟨asked, hasked⟩ := hdone.queried
    refine ⟨_, asked, rfl, hasked, ?_⟩
    rw [outcome_connected hopened, final_connected hopened]
    split
    · rename_i hlost
      obtain ⟨houtcome, hfinal⟩ := forceDisconnect_of_lost hdone.handle hlost
      rw [houtcome, settled_ok]
      exact ⟨rfl, hfinal⟩
    · rename_i hopen
      obtain ⟨houtcome, hfinal⟩ :=
        forceDisconnect_of_holds ⟨hdone.handle, Bool.eq_false_iff.mpr hopen⟩
      rw [houtcome, settled_map]
      exact ⟨rfl, hfinal⟩

def Orderly (x : Step b.journaled α) (work : Except Error (Step b.journaled α))
    (m : Manager b.journaled) : Prop :=
  match work with
  | .error e => x m = .error e m
  | .ok body => Tidy x body m

theorem Tidy.of_apply_eq {x y body : Step b.journaled α} {m : Manager b.journaled}
    (h : x m = y m) (hy : Tidy y body m) : Tidy x body m where
  shared := by
    rw [outcome, final, h]
    exact hy.shared
  unfurnished := by
    rw [h]
    exact hy.unfurnished
  refused := by
    rw [h]
    exact hy.refused
  owned := by
    rw [outcome, final, h]
    exact hy.owned

/-- Each command closes the connection just if it has opened it, and reports the
error of its work before that of closing. Printing looks records up, so that
only converters that leave the connection alone keep it as it is meanwhile.
Whatever they do, nothing is left of a connection that printing has opened. -/
theorem commands_close (s : Surroundings) (m : Manager b.journaled) :
    (∀ a : LoadArguments, Orderly (load s a) (loadWork s a m) m) ∧
    (∀ a : AddArguments, Orderly (add s a) (addWork s a m) m) ∧
    (m.converters.Quiet → ∀ a : PrintArguments, Orderly (print a) (.ok (printWork a)) m) ∧
    ∀ a : PrintArguments, (m.isConnected = true → print a m = printWork a m) ∧
      ∀ begun, connect m = .ok true begun →
        outcome (print a) m = settled (outcome (printWork a) begun)
          (outcome forceDisconnect (final (printWork a) begun)) ∧
        ∃ w, (final (print a) m).link = { world := w } := by
  refine ⟨fun a => ?_, fun a => ?_, fun hm a => ?_, fun a => ⟨fun hm => ?_, fun begun hm => ?_⟩⟩
  · have happly := load_apply s a m
    cases hwork : loadWork s a m with
    | error e =>
      rw [hwork] at happly
      exact happly
    | ok body =>
      rw [hwork] at happly
      apply Tidy.of_apply_eq (y := connected body) happly
      apply connected_tidy
      intro h l
      obtain ⟨t, data, -, -, rfl⟩ := loadWork_eq_ok hwork
      exact insertCollection_since t a.collection data
  · have happly := add_apply s a m
    cases hwork : addWork s a m with
    | error e =>
      rw [hwork] at happly
      exact happly
    | ok body =>
      rw [hwork] at happly
      apply Tidy.of_apply_eq (y := connected body) happly
      apply connected_tidy
      intro h l
      obtain ⟨-, -, rfl⟩ := addWork_eq_ok_iff.mp hwork
      exact addRecord_since (a.record s)
  · apply Tidy.of_apply_eq (congrFun (print_eq a) m)
    apply connected_tidy
    intro h l
    exact (findRecords_since hm a.name).bind fun _ => .pure _
  · rw [print_eq]
    exact connected_of_connected hm _
  · rw [print_eq, outcome_connected hm, final_connected hm, forceDisconnect, final_onLink]
    exact ⟨rfl, Link.final_forceDisconnect _⟩

end RunConditions.CommandLine

namespace RunConditions.Script
open CommandLine

def channelsInsert : String :=
  "INSERT INTO bad_channels (collection_id, ecal_channel_id) VALUES (3, '11') RETURNING id"

def failingTwice : State where
  selects := [("SELECT MAX(collection_id)+1 FROM bad_channels", ⟨["id"], [[some (.integer 3)]]⟩)]
  failing := [channelsInsert]
  closeFails := true

def furnishedManager : Manager backend.journaled :=
  Manager.afterwards Manager.getConditions
    [.configure overlappingConfig,
     .setParameters ⟨"t1", "x", "hps_conditions_test", "localhost", 5432, "mock"⟩]
    (Manager.new .standard (.base Files.none []) (failingTwice, []))

def oneChannel : Surroundings where
  files path := if path = "channels.txt" then .text "ecal_channel_id\n11\n" else .missing
  user := "tester"

def channelsLoad : LoadArguments where
  table := "bad_channels"
  file := "channels.txt"

theorem failingTwice_closes :
    outcome (load oneChannel channelsLoad) furnishedManager =
        .error (State.failure channelsInsert "scripted failure") ∧
      (final (load oneChannel channelsLoad) furnishedManager).link.handle = none ∧
      (final (load oneChannel channelsLoad) furnishedManager).link.parameters = none ∧
      (final (load oneChannel channelsLoad) furnishedManager).link.journal =
        [.opening ⟨"t1", "x", "hps_conditions_test", "localhost", 5432, "mock"⟩,
         .query () (.select "SELECT MAX(collection_id)+1 FROM bad_channels") true,
         .query () (.update channelsInsert) true, .closing ()] ∧
      Orderly (load oneChannel channelsLoad) (loadWork oneChannel channelsLoad furnishedManager)
        furnishedManager ∧
      furnishedManager.converters.Quiet ∧
      Orderly (print ⟨"bad", none⟩) (.ok (printWork ⟨"bad", none⟩)) furnishedManager :=
  have hreachable : furnishedManager.Reachable .standard := .afterwards (.new _ _) _
  have hquiet := hreachable.shipped.quiet
  have hclose := commands_close oneChannel furnishedManager
  ⟨rfl, rfl, rfl, rfl, hclose.1 channelsLoad, hquiet, hclose.2.2.1 hquiet ⟨"bad", none⟩⟩

end RunConditions.Script
