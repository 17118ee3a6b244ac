import RunConditions.Proofs.CacheInvariant
import RunConditions.Proofs.Consistency
import RunConditions.Proofs.Epoch
import RunConditions.Proofs.Requests

/-!
# Descriptions from another reader

Whatever reader a manager has been given, it looks for the current detector.
Another reader counts from then on for all that is not cached. A description
that was cached before stays until a switch to a configuration or a detector
succeeds, and is answered even though the new reader gives another one.
-/

set_option autoImplicit false

namespace RunConditions

def Reader.describe (r : Reader) (detector name : String) : Except Error Detector :=
  ((r.withPath detector).openText name).map fun xml => { name := detector, xml }

namespace Manager

variable {b : Backend} {α : Type}

/-- If there is a current detector, the reader looks for it. -/
def LooksRight (m : Manager b) : Prop :=
  ∀ detector, m.detector = some detector → m.reader.path = some detector

theorem readingBy_looksRight (m : Manager b) (reader : Reader) :
    (m.readingBy reader).LooksRight := by
  intro detector hd
  have hd' : m.detector = some detector := hd
  simp only [readingBy, hd', Reader.withPath]

theorem switched_looksRight (m : Manager b) (detector : String) (run : Int) :
    (m.switched detector run).LooksRight :=
  fun _ hd => hd

theorem onLink_looksRight (x : EStateM Error (Link b) α) : Keeps LooksRight (onLink x) := by
  intro m hm
  rw [final_onLink]
  exact hm

theorem looksRight_parallel : Parallel (Both (LooksRight (b := b))) := by
  apply both_parallel
  · exact onLink_looksRight _
  · exact fun _ => onLink_looksRight _
  · exact onLink_looksRight _
  · exact fun _ => onLink_looksRight _
  · exact fun _ => onLink_looksRight _
  · exact fun _ => onLink_looksRight _
  · exact fun m reader _ => readingBy_looksRight m reader
  · exact fun _ hm => hm
  · exact fun _ hm => hm
  · exact fun _ _ _ hm _ => hm
  · exact fun m detector run _ => switched_looksRight m detector run

/-- Whatever converters there are, operations and commands that fail included. -/
theorem action_looksRight (x : Action) : Keeps (LooksRight (b := b)) x.run := by
  apply Alike.keeps
  apply looksRight_parallel.action_alike
  intro k name
  apply looksRight_parallel.lookup_alike
  · rintro m _ ⟨rfl, -⟩
    rfl
  · rintro m _ ⟨rfl, -⟩
    rfl
  · rintro m _ _ _ _ ⟨rfl, hm⟩
    exact ⟨rfl, hm⟩

theorem Reachable.looksRight {types : Types} {m : Manager b} (hm : Reachable types m) :
    m.LooksRight := by
  induction hm with
  | new reader link =>
    intro detector hd
    cases hd
  | step op _ ih => exact action_looksRight (.call op) _ ih
  | drift world _ ih => exact ih

end Manager

def Request.leavesReader : Request → Bool
  | setReader _ => false
  | _ => true

def Types.LeaveReader (ts : Types) : Prop :=
  ∀ name c, ts.converter name = .ok c → ∀ asked, (c.plan asked).Only Request.leavesReader

theorem Plan.Only.leavesReader {α : Type} {p : Plan α} (hp : p.Only Request.reads) :
    p.Only Request.leavesReader := by
  apply hp.mono
  intro q hq
  cases q <;> first | rfl | cases hq

theorem Types.standard_detectorShipped : Types.standard.DetectorShipped := by
  intro name c hc hout
  have hshipped := Types.standard_shipped hc
  rw [hout] at hshipped
  exact (Option.some.inj hshipped).symm

theorem Types.standard_leaveReader : Types.standard.LeaveReader :=
  fun _ _ hc asked => (Converter.shipped_reads (Types.standard_shipped hc) asked).leavesReader

namespace Manager

variable {b : Backend} {α : Type} {types : Types} {m : Manager b}

theorem setup_detector {config : Config} {s : Setup} (hd : types.DetectorShipped)
    (hs : setup types config = .ok s) : s.converters.find? .detector = some .detector := by
  obtain ⟨-, hrealizes⟩ := consistent_of_setup hs
  by_cases hnamed : ∃ name ∈ config.converters, Config.NamesFor types name .detector
  · obtain ⟨c, hlast⟩ := Config.exists_lastNamed_iff.mpr hnamed
    have hc := (hrealizes.converters .detector c).mpr (Or.inl hlast)
    obtain ⟨hmem, hout⟩ := Converters.mem_of_find? hc
    have hshipped := setup_converters (P := fun c => c.output = .detector → c = .detector)
      hd (fun _ => rfl) hs c hmem hout
    rw [hc, hshipped]
  · apply (hrealizes.converters .detector .detector).mpr
    exact Or.inr ⟨rfl, rfl, fun name hmem hname => hnamed ⟨name, hmem, hname⟩⟩

/-- The manager knows these types, makes descriptions by the converter that ships,
and has no converter that puts another reader in. -/
structure Equipped (types : Types) (m : Manager b) : Prop where
  types : m.types = types
  describer : m.converters.find? .detector = some .detector
  leaveReader : ∀ c ∈ m.converters.list, ∀ name, (c.plan name).Only Request.leavesReader

theorem equipped_lasting (hd : types.DetectorShipped) (hl : types.LeaveReader) :
    Lasting (Equipped (b := b) types) where
  link _ _ h := ⟨h.types, h.describer, h.leaveReader⟩
  reader _ _ h := ⟨h.types, h.describer, h.leaveReader⟩
  shared _ h := ⟨h.types, h.describer, h.leaveReader⟩
  withoutRecords _ h := ⟨h.types, h.describer, h.leaveReader⟩
  cached _ _ _ _ _ _ _ _ _ _ h _ := ⟨h.types, h.describer, h.leaveReader⟩
  switched _ _ _ h := ⟨h.types, h.describer, h.leaveReader⟩
  setUp m config s h hs := by
    rw [h.types] at hs
    have hshipped : ∀ name, (Converter.detector.plan name).Only Request.leavesReader :=
      fun name => (Converter.shipped_reads (k := .detector) rfl name).leavesReader
    exact ⟨h.types, setup_detector hd hs, setup_converters hl hshipped hs⟩

theorem Reachable.equipped (hd : types.DetectorShipped) (hl : types.LeaveReader)
    (hm : Reachable types m) : m.Equipped types := by
  apply (equipped_lasting hd hl).reachable _ hm
  intro reader link
  refine ⟨rfl, rfl, ?_⟩
  intro c hc name
  rcases Converters.mem_register hc with rfl | hc
  · exact (Converter.shipped_reads (k := .detector) rfl name).leavesReader
  · cases hc

structure ReadsBy (types : Types) (r : Reader) (m : Manager b) : Prop
    extends Equipped types m where
  find : m.reader.find = r.find
  looksRight : m.LooksRight

/-- The manager reads by this reader. Of the descriptions that it has cached, the old
ones are there unchanged, and the others are what the reader gives. -/
structure Describes (types : Types) (r : Reader) (old : String → Option Detector)
    (m : Manager b) : Prop extends ReadsBy types r m where
  kept : ∀ name x, old name = some x → m.cache.data? .detector name = some x
  made : ∀ name x, old name = none → m.cache.data? .detector name = some x →
    ∃ detector, m.detector = some detector ∧ r.describe detector name = .ok x

variable {r : Reader} {old : String → Option Detector}

theorem carryOut_describes {look : (k : Kind) → String → Step b k.Data} (h : m.ReadsBy types r)
    {detector : String} (hd : m.detector = some detector) (name : String) :
    carryOut look (Converter.detectorPlan name) m =
      match r.describe detector name with
      | .error e => .error e m
      | .ok x => .ok x m := by
  have hopen : m.reader.openText name = (r.withPath detector).openText name := by
    rw [Reader.openText, h.find, h.looksRight detector hd]
    rfl
  rw [carryOut_detectorPlan, hd]
  simp only [Reader.describe, hopen]
  cases (r.withPath detector).openText name <;> rfl

/-- A description is the cached one, or else what the reader gives. -/
theorem outcome_getConditions_detector (h : m.ReadsBy types r) {detector : String}
    (hd : m.detector = some detector) (name : String) :
    outcome (getConditions .detector name) m =
      match m.cache.data? .detector name with
      | some x => .ok x
      | none => r.describe detector name := by
  cases hdata : m.cache.data? .detector name with
  | some x => rw [outcome, getConditions_apply_of_cached hdata]
  | none =>
    rw [outcome, getConditions_apply_of_not_cached hdata,
      materialize_apply_of_honest (k := .detector) h.describer, carryOut_describes h hd]
    cases r.describe detector name <;> rfl

theorem Describes.answers (h : m.Describes types r old) {detector : String}
    (hd : m.detector = some detector) (name : String) :
    outcome (getConditions .detector name) m =
      match old name with
      | some x => .ok x
      | none => r.describe detector name := by
  rw [outcome_getConditions_detector h.toReadsBy hd]
  cases ho : old name with
  | some x => rw [h.kept name x ho]
  | none =>
    cases hdata : m.cache.data? .detector name with
    | none => rfl
    | some x =>
      obtain ⟨detector', hd', hx⟩ := h.made name x ho hdata
      rw [hd, Option.some.injEq] at hd'
      rw [hd', hx]

theorem Describes.of_same {m' : Manager b} (h : m.Describes types r old)
    (htypes : m'.types = m.types) (hconverters : m'.converters = m.converters)
    (hreader : m'.reader = m.reader) (hdetector : m'.detector = m.detector)
    (hcache : ∀ name, m'.cache.data? .detector name = m.cache.data? .detector name) :
    m'.Describes types r old := by
  refine ⟨⟨⟨?_, ?_, ?_⟩, ?_, ?_⟩, ?_, ?_⟩
  · rw [htypes, h.types]
  · rw [hconverters, h.describer]
  · rw [hconverters]
    exact h.leaveReader
  · rw [hreader, h.find]
  · rw [LooksRight, hdetector, hreader]
    exact h.looksRight
  · simp only [hcache]
    exact h.kept
  · simp only [hcache, hdetector]
    exact h.made

theorem Describes.of_link (h : m.Describes types r old) (l : Link b) :
    Describes types r old { m with link := l } :=
  h.of_same rfl rfl rfl rfl fun _ => rfl

theorem Describes.cached (h : m.Describes types r old) {k : Kind} {name : String}
    {payload : Payload}
    (hmade : k = .detector → old name = none ∧ ∃ detector x, m.detector = some detector ∧
      r.describe detector name = .ok x ∧ payload = ⟨.detector, x⟩) :
    (m.cached k name payload).Describes types r old := by
  have hdata : ∀ asked, (m.cached k name payload).cache.data? .detector asked =
      if (CacheEntry.mk k name payload m.detector m.run).isFor .detector asked
      then payload.as? .detector else m.cache.data? .detector asked :=
    fun asked => Cache.data?_insert m.cache _ .detector asked
  refine ⟨⟨⟨h.types, h.describer, h.leaveReader⟩, h.find, h.looksRight⟩, ?_, ?_⟩
  · intro asked x ho
    rw [hdata]
    split
    · rename_i hfor
      obtain ⟨hk, hname⟩ := CacheEntry.isFor_iff.mp hfor
      rw [← (hname : name = asked), (hmade hk).1] at ho
      cases ho
    · exact h.kept asked x ho
  · intro asked x ho hx
    rw [hdata] at hx
    split at hx
    · rename_i hfor
      obtain ⟨hk, hname⟩ := CacheEntry.isFor_iff.mp hfor
      obtain ⟨-, detector, x', hdetector, hgives, rfl⟩ := hmade hk
      rw [Payload.as?_mk, Option.some.injEq] at hx
      rw [← (hname : name = asked), ← hx]
      exact ⟨detector, hdetector, hgives⟩
    · exact h.made asked x ho hx

theorem onLink_describes (x : EStateM Error (Link b) α) :
    Keeps (Describes types r old) (onLink x) := by
  intro m h
  rw [final_onLink]
  exact h.of_link _

theorem openText_describes (name : String) :
    Keeps (Describes (b := b) types r old) (openText name) := by
  intro m h
  obtain ⟨w, hw⟩ := asks_openText name m
  rw [hw]
  exact h.of_link _

theorem addRecord_describes (record : Record) :
    Keeps (Describes (b := b) types r old) (addRecord record) := by
  apply Alike.keeps
  apply addRecord_alike record
  · rintro m _ ⟨rfl, -⟩
    rfl
  · rintro m _ ⟨rfl, -⟩
    rfl
  · exact fun sql => (onLink_describes (Link.update sql)).alike
  · rintro m _ ⟨rfl, h⟩
    have hother : Kind.detector ≠ .records := by simp
    exact ⟨rfl, h.of_same rfl rfl rfl rfl fun name => Cache.data?_without_of_ne hother _ name⟩

theorem perform_describes {look : (k : Kind) → String → Step b k.Data}
    (hlook : ∀ k name, Keeps (Describes types r old) (look k name)) {q : Request}
    (hq : q.leavesReader = true) : Keeps (Describes types r old) (perform look q) := by
  cases q with
  | view => exact fun _ h => h
  | lookup kind name => exact hlook kind name
  | openText name => exact openText_describes name
  | select sql => exact onLink_describes _
  | update sql => exact onLink_describes _
  | addRecord record => exact addRecord_describes record
  | connect => exact onLink_describes _
  | disconnect openedHere => exact onLink_describes _
  | forceDisconnect => exact onLink_describes _
  | setParameters p => exact onLink_describes (Link.setParameters p)
  | setReader reader => cases hq

theorem Describes.materialize (h : m.Describes types r old)
    {look : (k : Kind) → String → Step b k.Data}
    (hlook : ∀ k name, Keeps (Describes types r old) (look k name)) {k : Kind} {name : String}
    (hnone : m.cache.data? k name = none) :
    Describes types r old (final (materialize look k name) m) := by
  by_cases hk : k = .detector
  · subst hk
    have hold : old name = none := by
      cases ho : old name with
      | none => rfl
      | some x =>
        rw [h.kept name x ho] at hnone
        cases hnone
    rw [final, materialize_apply_of_honest (k := .detector) h.describer]
    cases hd : m.detector with
    | none =>
      rw [carryOut_detectorPlan, hd]
      exact h
    | some detector =>
      rw [carryOut_describes h.toReadsBy hd]
      cases hx : r.describe detector name with
      | error e => exact h
      | ok x => exact h.cached fun _ => ⟨hold, detector, x, hd, hx, rfl⟩
  · rw [final, materialize_apply]
    cases hc : m.converters.find? k with
    | none => exact h
    | some c =>
      have hplan := h.leaveReader c (Converters.mem_of_find? hc).1 name
      have hmade := carryOut_keeps (fun _ => perform_describes hlook) hplan m h
      rw [final] at hmade
      dsimp only
      cases hcarry : carryOut look (c.plan name) m with
      | error e m' =>
        rw [hcarry] at hmade
        exact hmade
      | ok payload m' =>
        rw [hcarry] at hmade
        dsimp only
        cases payload.as? k with
        | none => exact hmade
        | some data => exact hmade.cached fun hkind => absurd hkind hk

theorem lookup_describes (depth : Nat) (k : Kind) (name : String) :
    Keeps (Describes (b := b) types r old) (lookup depth k name) := by
  induction depth generalizing k name with
  | zero =>
    apply Keeps.get_bind
    intro m _
    split
    · exact .pure _
    · exact .throw _
  | succ depth ih =>
    intro m h
    cases hdata : m.cache.data? k name with
    | some data =>
      rw [final, lookup_apply_of_cached hdata]
      exact h
    | none =>
      rw [final, lookup_apply_of_not_cached hdata]
      exact h.materialize ih hdata

theorem ReadsBy.describes_of_empty (h : m.ReadsBy types r) (hcache : m.cache = {}) :
    m.Describes types r fun _ => none := by
  refine ⟨h, ?_, ?_⟩
  · intro name x hx
    cases hx
  · intro name x _ hx
    rw [hcache] at hx
    cases hx

/-- A switch that fails leaves all descriptions, and one that succeeds leaves none. -/
def Renews (types : Types) (r : Reader) (x : Step b Unit) : Prop :=
  ∀ old m, Describes types r old m →
    match outcome x m with
    | .error _ => Describes types r old (final x m)
    | .ok _ => Describes types r (fun _ => none) (final x m)

section Switching

variable (hd : types.DetectorShipped) (hl : types.LeaveReader)
include hd hl

theorem renews_configure (config : Config) : Renews types r (configure (b := b) config) := by
  intro old m h
  cases hs : setup m.types config with
  | error e =>
    rw [outcome, final, configure_apply_of_error hs]
    exact h
  | ok s =>
    have hequipped := (equipped_lasting hd hl).setUp m config s h.toEquipped hs
    have hreads : (m.setUp s).ReadsBy types r := ⟨hequipped, h.find, h.looksRight⟩
    rw [outcome, final, configure_apply hs]
    exact hreads.describes_of_empty rfl

theorem renews_configured (config : Except Error Config) :
    Renews types r (conclude config >>= configure (b := b)) := by
  cases config with
  | ok config => exact renews_configure hd hl config
  | error e => exact fun _ _ h => h

end Switching

theorem setDetector_readsBy (detector : String) (run : Int) :
    Keeps (ReadsBy (b := b) types r) (setDetector detector run) := by
  apply Alike.keeps
  apply setDetector_alike detector run
  · rintro m _ ⟨rfl, -⟩
    rfl
  · rintro m _ ⟨rfl, -⟩
    rfl
  · apply Keeps.alike
    intro m h
    rw [connect, final_onLink]
    exact ⟨⟨h.types, h.describer, h.leaveReader⟩, h.find, h.looksRight⟩
  · rintro m _ ⟨rfl, h⟩
    exact ⟨rfl, ⟨h.types, h.describer, h.leaveReader⟩, h.find, switched_looksRight m detector run⟩

theorem renews_setDetector (detector : String) (run : Int) :
    Renews types r (setDetector (b := b) detector run) := by
  intro old m h
  cases ho : outcome (setDetector detector run) m with
  | error e =>
    obtain ⟨w, hw⟩ := atomic_setDetector detector run m e ho
    rw [hw]
    exact h.of_link _
  | ok a =>
    have hreads := setDetector_readsBy detector run m h.toReadsBy
    exact hreads.describes_of_empty (cache_setDetector ho)

/-- What neither switches nor puts another reader in leaves the old descriptions and
makes new ones with the reader. -/
theorem run_describes {op : Operation} (hswitch : op.switches = false)
    (hreader : ∀ reader, op ≠ .setReader reader) :
    Keeps (Describes (b := b) types r old) op.run := by
  have hlook : ∀ k name, Keeps (Describes (b := b) types r old) (getConditions k name) :=
    lookup_describes nestingLimit
  have hsame : ∀ m m', Both (Describes (b := b) types r old) m m' → m.tables = m'.tables := by
    rintro m _ ⟨rfl, -⟩
    rfl
  have hselect : ∀ sql, Keeps (Describes (b := b) types r old) (select sql) :=
    fun sql => onLink_describes (Link.select sql)
  cases op with
  | getConditions kind name => exact hlook kind name
  | getDetector => exact hlook .detector detectorDescription
  | findRecords name =>
    have hplan := (Plan.findRecords_reads name).leavesReader
    exact carryOut_keeps (fun _ => perform_describes hlook) hplan
  | addRecord record => exact addRecord_describes record
  | nextCollectionId table =>
    exact (nextCollectionId_alike table hsame fun sql => (hselect sql).alike).keeps
  | collectionExists table collection =>
    exact (collectionExists_alike table collection hsame fun sql => (hselect sql).alike).keeps
  | connect => exact onLink_describes _
  | disconnect openedHere => exact onLink_describes _
  | forceDisconnect => exact onLink_describes _
  | setParameters p => exact onLink_describes (Link.setParameters p)
  | setProperties files path =>
    exact (Keeps.conclude _).bind fun p => onLink_describes (Link.setParameters p)
  | setResource name =>
    exact (Keeps.conclude _).bind fun p => onLink_describes (Link.setParameters p)
  | select sql => exact hselect sql
  | update sql => exact onLink_describes _
  | setReader reader => exact absurd rfl (hreader reader)
  | openText name => exact openText_describes name
  | share => exact fun _ h => h.of_same rfl rfl rfl rfl fun _ => rfl
  | configure config => cases hswitch
  | configureText text => cases hswitch
  | configureFile files path => cases hswitch
  | configureResource name => cases hswitch
  | setDetector detector run => cases hswitch

def afterMoves (moves : List (Move b)) (m : Manager b) : Manager b :=
  moves.foldl (fun m move => move.final m) m

def Switched (op : Operation) (m : Manager b) : Prop :=
  op.switches = true ∧ ∃ a, outcome op.run m = .ok a

def SwitchedIn : List (Move b) → Manager b → Prop
  | [], _ => False
  | .drift world :: moves, m => SwitchedIn moves (m.moved world)
  | .call op :: moves, m => Switched op m ∨ SwitchedIn moves (final op.run m)

def SameReader (moves : List (Move b)) : Prop :=
  ∀ reader, .call (.setReader reader) ∉ moves

theorem Renews.cases {x : Step b Unit} (hx : Renews types r x) (h : m.Describes types r old) :
    ((∃ a, outcome x m = .ok a) → Describes types r (fun _ => none) (final x m)) ∧
      (¬ (∃ a, outcome x m = .ok a) → Describes types r old (final x m)) := by
  have hrenews := hx old m h
  cases ho : outcome x m with
  | ok a =>
    rw [ho] at hrenews
    exact ⟨fun _ => hrenews, fun hno => absurd ⟨a, rfl⟩ hno⟩
  | error e =>
    rw [ho] at hrenews
    exact ⟨fun ⟨_, ha⟩ => (by cases ha), fun _ => hrenews⟩

section Running

variable (hd : types.DetectorShipped) (hl : types.LeaveReader)
include hd hl

theorem Describes.call (h : m.Describes types r old) {op : Operation}
    (hreader : ∀ reader, op ≠ .setReader reader) :
    (Switched op m → Describes types r (fun _ => none) (final op.run m)) ∧
      (¬ Switched op m → Describes types r old (final op.run m)) := by
  cases hswitch : op.switches with
  | false =>
    have hrun := run_describes hswitch hreader m h
    exact ⟨fun hs => by simp [Switched, hswitch] at hs, fun _ => hrun⟩
  | true =>
    simp only [Switched, hswitch, true_and]
    cases op with
    | configure config => exact (renews_configure hd hl config).cases h
    | configureText text => exact (renews_configured hd hl _).cases h
    | configureFile files path => exact (renews_configured hd hl _).cases h
    | configureResource name => exact (renews_configured hd hl _).cases h
    | setDetector detector run => exact (renews_setDetector detector run).cases h
    | _ => cases hswitch

theorem Describes.afterMoves (h : m.Describes types r old) {moves : List (Move b)}
    (hmoves : SameReader moves) :
    (SwitchedIn moves m → Describes types r (fun _ => none) (afterMoves moves m)) ∧
      (¬ SwitchedIn moves m → Describes types r old (afterMoves moves m)) := by
  induction moves generalizing m old with
  | nil => exact ⟨False.elim, fun _ => h⟩
  | cons move moves ih =>
    have hrest : SameReader moves := fun reader hmem =>
      hmoves reader (List.mem_cons_of_mem _ hmem)
    cases move with
    | drift world => exact ih (h.of_link _) hrest
    | call op =>
      have hreader : ∀ reader, op ≠ .setReader reader := by
        rintro reader rfl
        exact hmoves reader List.mem_cons_self
      obtain ⟨hyes, hno⟩ := h.call hd hl hreader
      by_cases hs : Switched op m
      · obtain ⟨hagain, hlast⟩ := ih (hyes hs) hrest
        refine ⟨fun _ => ?_, fun hnone => absurd (Or.inl hs) hnone⟩
        by_cases hlater : SwitchedIn moves (final op.run m)
        · exact hagain hlater
        · exact hlast hlater
      · obtain ⟨hlater, hlast⟩ := ih (hno hs) hrest
        constructor
        · intro hsome
          exact hlater (hsome.resolve_left hs)
        · intro hnone
          exact hlast fun hsome => hnone (Or.inr hsome)

end Running

theorem setReader_describes (h : m.Equipped types) (r : Reader) :
    Describes types r (m.cache.data? .detector) (final (setReader r) m) := by
  have hfinal : final (setReader r) m = m.readingBy r := rfl
  rw [hfinal]
  refine ⟨⟨⟨h.types, h.describer, h.leaveReader⟩, ?_, readingBy_looksRight m r⟩, ?_, ?_⟩
  · cases hdetector : m.detector with
    | none => simp only [readingBy, hdetector]
    | some detector => simp only [readingBy, hdetector, Reader.withPath]
  · exact fun _ _ hx => hx
  · intro name x hnone hx
    have hsome : m.cache.data? .detector name = some x := hx
    rw [hnone] at hsome
    cases hsome

/-- The reader always looks for the current detector. After another reader has been put
in, a description that was cached then is answered until a switch succeeds, and any
other one is what the new reader gives for the detector that is then current. -/
theorem description_by_reader (hd : types.DetectorShipped) (hl : types.LeaveReader)
    (hm : Reachable types m) :
    (∀ detector, m.detector = some detector → m.reader.path = some detector) ∧
      (∀ (r : Reader) (moves : List (Move b)), SameReader moves →
        let replaced := final (setReader r) m
        let later := afterMoves moves replaced
        ∀ detector name, later.detector = some detector →
          (SwitchedIn moves replaced ∨ m.cache.data? .detector name = none →
            outcome (getConditions .detector name) later = r.describe detector name) ∧
          (¬ SwitchedIn moves replaced → ∀ x, m.cache.data? .detector name = some x →
            outcome (getConditions .detector name) later = .ok x)) ∧
      getDetector (b := b) = getConditions .detector detectorDescription := by
  refine ⟨hm.looksRight, ?_, rfl⟩
  intro r moves hmoves replaced later detector name hdetector
  have hstart := setReader_describes (hm.equipped hd hl) r
  obtain ⟨hyes, hno⟩ := hstart.afterMoves hd hl hmoves
  constructor
  · intro hcount
    by_cases hs : SwitchedIn moves replaced
    · exact (hyes hs).answers hdetector name
    · rw [(hno hs).answers hdetector name, hcount.resolve_left hs]
  · intro hs x hx
    rw [(hno hs).answers hdetector name, hx]

end Manager

namespace Script

def signed (signature : String) : Reader where
  find path name := .ok (signature ++ ": " ++ path.getD "" ++ "/" ++ name)

def describedManager : Manager backend :=
  Manager.afterwards Manager.getConditions
    [.setDetector "HPS-TestRun-v5" 150, .getDetector]
    { types := .standard, reader := signed "first"
      link :=
        { parameters := some ⟨"t1", "x", "hps_conditions_test", "localhost", 5432, "mock"⟩
          handle := some (), world := { closed := false } } }

def nextRun : List (Manager.Move backend) :=
  [.call (.getConditions (.collection (.channel .badChannel)) "bad"),
   .call (.setDetector "HPS-TestRun-v5" 151)]

theorem nextRun_sameReader : Manager.SameReader nextRun := by
  intro reader hmem
  simp [nextRun] at hmem

theorem described_in_next_run :
    describedManager.Reachable .standard ∧ Types.standard.DetectorShipped ∧
      Types.standard.LeaveReader ∧ Manager.SameReader nextRun ∧
      outcome (Manager.getConditions .detector "compact.xml")
          (Manager.afterMoves nextRun
            (final (Manager.setReader (signed "second")) describedManager)) =
        .ok ⟨"HPS-TestRun-v5", "second: HPS-TestRun-v5/compact.xml"⟩ :=
  have hm : describedManager.Reachable .standard := .afterwards (.new _ _) _
  have hreader := Manager.description_by_reader Types.standard_detectorShipped
    Types.standard_leaveReader hm
  have hswitched : Manager.SwitchedIn nextRun
      (final (Manager.setReader (signed "second")) describedManager) :=
    Or.inr (Or.inl ⟨rfl, ⟨⟩, rfl⟩)
  ⟨hm, Types.standard_detectorShipped, Types.standard_leaveReader, nextRun_sameReader,
    ((hreader.2.1 (signed "second") nextRun nextRun_sameReader "HPS-TestRun-v5" "compact.xml"
      rfl).1 (Or.inl hswitched)).trans rfl⟩

/-- The reader that is in gives one description, and the manager answers another one. -/
theorem replaced_reader_unheard :
    describedManager.detector = some "HPS-TestRun-v5" ∧
      (signed "second").describe "HPS-TestRun-v5" Manager.detectorDescription =
        .ok ⟨"HPS-TestRun-v5", "second: HPS-TestRun-v5/compact.xml"⟩ ∧
      outcome Manager.getDetector
          (final (Manager.setReader (signed "second")) describedManager) =
        .ok ⟨"HPS-TestRun-v5", "first: HPS-TestRun-v5/compact.xml"⟩ :=
  ⟨rfl, rfl, rfl⟩

end Script
end RunConditions
