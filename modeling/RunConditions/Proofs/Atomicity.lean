import RunConditions.Proofs.Asking
import RunConditions.Proofs.Cache
import RunConditions.Proofs.Selection

/-!
# Operations that fail change nothing

Each operation does all that may fail before it changes the manager, so that a
failed operation has at most moved the database side. Only a lookup of rows
does two things that may fail, and it may keep what the first one brought: the
records by which it was to select.
-/

set_option autoImplicit false

namespace RunConditions

/-- The operations that change the manager as a whole or not at all. Lookups may
keep records, and closing drops the connection however it goes. -/
def Operation.allOrNothing : Operation → Bool
  | getConditions _ _ | disconnect _ | forceDisconnect => false
  | _ => true

namespace Manager

variable {b : Backend}

/-- Every entry of the cache holds data of its own kind. -/
def KindsRight (m : Manager b) : Prop :=
  ∀ e ∈ m.cache.entries, e.payload.kind = e.kind

theorem kindsRight_lasting : Lasting (KindsRight (b := b)) where
  link _ _ h := h
  reader _ _ h := h
  shared _ h := h
  withoutRecords _ h e he := h e (Cache.mem_without he).1
  cached _ k name _ payload _ m' _ _ _ h hk e he := by
    rcases Cache.mem_insert he with rfl | he
    · exact hk
    · exact h e he
  setUp _ _ _ _ _ _ he := by cases he
  switched _ _ _ _ _ he := by cases he

theorem KindsRight.find?_eq_none {m : Manager b} (hm : m.KindsRight) {k : Kind} {name : String}
    (h : m.cache.data? k name = none) : m.cache.find? k name = none := by
  cases he : m.cache.find? k name with
  | none => rfl
  | some e =>
    obtain ⟨hmem, hkind, -⟩ := Cache.mem_of_find? he
    rw [Cache.data?, he, Option.bind_some, Payload.as?_eq_none_iff] at h
    exact absurd ((hm e hmem).trans hkind) h

theorem moved_askable (m₀ : Manager b) : Askable fun m => ∃ w, m = m₀.moved w where
  records := by
    rintro _ name t ⟨w, rfl⟩ - -
    exact asks_select _ (m₀.moved w)
  rows := by
    rintro _ name t collection ⟨w, rfl⟩ -
    exact asks_select _ (m₀.moved w)

theorem asks_readSelected (c : CollectionType) (record : Record) :
    Asks (readSelected (b := b) c record) :=
  fun m => (moved_askable m).readSelected c record m ⟨m.link.world, rfl⟩

theorem asks_recordsPlan (look : (k : Kind) → String → Step b k.Data) :
    Asks (carryOut look Converter.recordsPlan) :=
  fun m => (moved_askable m).recordsPlan m ⟨m.link.world, rfl⟩

theorem Shipped.find?_eq {m : Manager b} (hm : m.Shipped) (k : Kind) :
    m.converters.find? k = none ∨ m.converters.find? k = Converter.shipped k := by
  cases hc : m.converters.find? k with
  | none => exact Or.inl rfl
  | some c => exact Or.inr (hm k c hc).symm

theorem lookup_records_cases {m : Manager b} (hm : m.Shipped) (depth : Nat) (name : String) :
    (∃ e w, lookup (depth + 1) .records name m = .error e (m.moved w)) ∨
      (∃ all, lookup (depth + 1) .records name m = .ok all m) ∨
      ∃ all w, m.cache.data? .records name = none ∧
        lookup (depth + 1) .records name m =
          .ok all ((m.moved w).cached .records name ⟨.records, all⟩) := by
  cases hdata : m.cache.data? .records name with
  | some all => exact Or.inr (Or.inl ⟨all, lookup_apply_of_cached hdata _⟩)
  | none =>
    rw [lookup_apply_of_not_cached hdata]
    rcases hm.find?_eq .records with hc | hc
    · left
      refine ⟨.notFound (.noConverter .records), m.link.world, ?_⟩
      rw [materialize_apply, hc]
      rfl
    · rw [materialize_apply_of_honest (k := .records) hc]
      obtain ⟨w, hw⟩ := asks_recordsPlan (lookup depth) m
      cases ho : outcome (carryOut (lookup depth) Converter.recordsPlan) m with
      | error e =>
        left
        refine ⟨e, w, ?_⟩
        simp only [apply_eq_error ho, hw]
      | ok all =>
        right
        right
        refine ⟨all, w, rfl, ?_⟩
        simp only [apply_eq_ok ho, hw]

/-- The database side has changed, and the records may have been cached where
there was no entry for them. Everything else is the same. -/
def UpToRecords (m m' : Manager b) : Prop :=
  ∃ w, m' = m.moved w ∨ ∃ table all, m.conditionsTable = some table ∧
    m.cache.find? .records table = none ∧
    m' = (m.moved w).cached .records table ⟨.records, all⟩

theorem UpToRecords.refl (m : Manager b) : UpToRecords m m :=
  ⟨m.link.world, Or.inl rfl⟩

theorem UpToRecords.moved {m m' : Manager b} (h : UpToRecords m m') (w : b.World) :
    UpToRecords m (m'.moved w) := by
  obtain ⟨_, rfl | ⟨table, all, htable, hnone, rfl⟩⟩ := h
  · exact ⟨w, Or.inl rfl⟩
  · exact ⟨w, Or.inr ⟨table, all, htable, hnone, rfl⟩⟩

section Finding

variable {m : Manager b} (hm : m.Shipped) (depth : Nat) (name : String)
include hm

theorem atomic_findRecords {e : Error}
    (he : outcome (carryOut (lookup (depth + 1)) (Plan.findRecords name)) m = .error e) :
    ∃ w, final (carryOut (lookup (depth + 1)) (Plan.findRecords name)) m = m.moved w := by
  rw [outcome, carryOut_findRecords] at he
  rw [final, carryOut_findRecords]
  cases ht : m.conditionsTable with
  | none => exact ⟨m.link.world, rfl⟩
  | some table =>
    simp only [ht] at he ⊢
    rcases lookup_records_cases hm depth table with
      ⟨e, w, hl⟩ | ⟨all, hl⟩ | ⟨all, w, -, hl⟩
    · rw [hl]
      exact ⟨w, rfl⟩
    · rw [hl] at he
      cases he
    · rw [hl] at he
      cases he

theorem findRecords_upToRecords (hk : m.KindsRight) :
    UpToRecords m (final (carryOut (lookup (depth + 1)) (Plan.findRecords name)) m) := by
  rw [final, carryOut_findRecords]
  cases ht : m.conditionsTable with
  | none => exact .refl m
  | some table =>
    dsimp only
    rcases lookup_records_cases hm depth table with
      ⟨e, w, hl⟩ | ⟨all, hl⟩ | ⟨all, w, hnone, hl⟩
    · rw [hl]
      exact ⟨w, Or.inl rfl⟩
    · rw [hl]
      exact .refl m
    · rw [hl]
      exact ⟨w, Or.inr ⟨table, all, ht, hk.find?_eq_none hnone, rfl⟩⟩

theorem selectedPlan_upToRecords (hk : m.KindsRight) (c : CollectionType) :
    UpToRecords m (final (carryOut (lookup (depth + 1)) (Converter.selectedPlan c name)) m) := by
  have hfound := findRecords_upToRecords hm depth name hk
  rw [final, carryOut_selectedPlan]
  cases ho : outcome (carryOut (lookup (depth + 1)) (Plan.findRecords name)) m with
  | error e =>
    rw [apply_eq_error ho]
    exact hfound
  | ok records =>
    rw [apply_eq_ok ho]
    dsimp only
    cases (records.validFor m.run).latest? with
    | none => exact hfound
    | some record =>
      dsimp only
      obtain ⟨w, hw⟩ := asks_readSelected c record
        (final (carryOut (lookup (depth + 1)) (Plan.findRecords name)) m)
      rw [← final, hw]
      exact hfound.moved w

end Finding

section Failing

variable {m : Manager b} {k : Kind} {name : String} {e : Error}

theorem final_getConditions_of_error (plan : String → Plan k.Data)
    (hc : m.converters.find? k = none ∨ m.converters.find? k = some (.honest k plan))
    (he : outcome (getConditions k name) m = .error e) :
    final (getConditions k name) m = m ∨
      outcome (carryOut (lookup 255) (plan name)) m = .error e ∧
        final (getConditions k name) m = final (carryOut (lookup 255) (plan name)) m := by
  cases hdata : m.cache.data? k name with
  | some data =>
    rw [outcome, getConditions_apply_of_cached hdata] at he
    cases he
  | none =>
    rw [outcome, getConditions_apply_of_not_cached hdata] at he
    rw [final, getConditions_apply_of_not_cached hdata]
    rcases hc with hc | hc
    · left
      rw [materialize_apply, hc]
    · right
      rw [materialize_apply_of_honest hc] at he ⊢
      cases ho : outcome (carryOut (lookup 255) (plan name)) m with
      | error e' =>
        rw [apply_eq_error ho] at he ⊢
        exact ⟨he, rfl⟩
      | ok data =>
        rw [apply_eq_ok ho] at he
        cases he

theorem final_carryOut_detectorPlan {look : (k : Kind) → String → Step b k.Data} (name : String)
    (m : Manager b) : final (carryOut look (Converter.detectorPlan name)) m = m := by
  rw [final, carryOut_detectorPlan]
  cases m.detector with
  | none => rfl
  | some detector =>
    dsimp only
    cases m.reader.openText name <;> rfl

theorem final_getConditions_detector (hm : m.Shipped)
    (he : outcome (getConditions .detector name) m = .error e) :
    final (getConditions .detector name) m = m := by
  rcases final_getConditions_of_error (k := .detector) Converter.detectorPlan
      (hm.find?_eq .detector) he with hfinal | ⟨-, hfinal⟩
  · exact hfinal
  · rw [hfinal, final_carryOut_detectorPlan]

theorem getConditions_upToRecords (hm : m.Shipped) (hk : m.KindsRight)
    (he : outcome (getConditions k name) m = .error e) :
    UpToRecords m (final (getConditions k name) m) := by
  cases k with
  | text =>
    -- Nothing that ships makes texts, so any plan will do here.
    have hc : m.converters.find? .text = none := (hm.find?_eq .text).elim id id
    rcases final_getConditions_of_error (k := .text) (fun _ => .done "") (Or.inl hc) he with
      hfinal | ⟨ho, -⟩
    · rw [hfinal]
      exact .refl m
    · cases ho
  | detector =>
    rw [final_getConditions_detector hm he]
    exact .refl m
  | collection c =>
    by_cases hrecord : c = .record
    · subst hrecord
      rcases final_getConditions_of_error (k := .records)
        (fun _ => Converter.recordsPlan) (hm.find?_eq _) he with hfinal | ⟨-, hfinal⟩
      · rw [hfinal]
        exact .refl m
      · rw [hfinal]
        obtain ⟨w, hw⟩ := asks_recordsPlan (lookup 255) m
        exact ⟨w, Or.inl hw⟩
    · have hc := hm.find?_eq (.collection c)
      rw [Converter.shipped_collection hrecord] at hc
      rcases final_getConditions_of_error (k := .collection c) (Converter.selectedPlan c) hc he
        with hfinal | ⟨-, hfinal⟩
      · rw [hfinal]
        exact .refl m
      · rw [hfinal]
        exact selectedPlan_upToRecords hm 254 name hk c

end Failing

theorem run_unchanged {m : Manager b} (hm : m.Shipped) {op : Operation}
    (hop : op.allOrNothing = true) {e : Error} (he : outcome op.run m = .error e) :
    ∃ w, final op.run m = m.moved w := by
  cases op with
  | configure config => exact atomic_configure config m e he
  | configureText text => exact Atomic.bind (.conclude _) atomic_configure m e he
  | configureFile files path => exact Atomic.bind (.conclude _) atomic_configure m e he
  | configureResource name => exact Atomic.bind (.conclude _) atomic_configure m e he
  | setDetector detector run => exact atomic_setDetector detector run m e he
  | getConditions kind name => cases hop
  | getDetector => exact ⟨m.link.world, final_getConditions_detector hm he⟩
  | findRecords name => exact atomic_findRecords hm 255 name he
  | addRecord record => exact atomic_addRecord record m e he
  | nextCollectionId table => exact asks_nextCollectionId table m
  | collectionExists table collection => exact asks_collectionExists table collection m
  | connect => exact atomic_connect m e he
  | disconnect openedHere => cases hop
  | forceDisconnect => cases hop
  | setParameters p => exact atomic_setParameters p m e he
  | setProperties files path => exact Atomic.bind (.conclude _) atomic_setParameters m e he
  | setResource name => exact Atomic.bind (.conclude _) atomic_setParameters m e he
  | select sql => exact asks_select sql m
  | update sql => exact asks_update sql m
  | setReader reader => exact Atomic.modify _ m e he
  | openText name => exact asks_openText name m
  | share => exact Atomic.modify _ m e he

/-- With the converters that ship, operations that fail leave the manager as it
was, and a lookup that fails may only have cached the records. -/
theorem failed_unchanged {types : Types} {m : Manager b} (hm : Reachable types m)
    (hs : m.Shipped) :
    (∀ (op : Operation) (e : Error), op.allOrNothing = true → outcome op.run m = .error e →
      ∃ w, final op.run m = m.moved w) ∧
    ∀ (k : Kind) (name : String) (e : Error), outcome (getConditions k name) m = .error e →
      UpToRecords m (final (getConditions k name) m) := by
  have hk : m.KindsRight := kindsRight_lasting.reachable (fun _ _ _ he => by cases he) hm
  constructor
  · intro op e hop he
    exact run_unchanged hs hop he
  · intro k name e he
    exact getConditions_upToRecords hs hk he

/-- The manager knows just the types that ship. -/
structure Standard (m : Manager b) : Prop where
  types : m.types = .standard
  shipped : m.Shipped

theorem standard_lasting : Lasting (Standard (b := b)) where
  link _ _ h := ⟨h.types, h.shipped⟩
  reader _ _ h := ⟨h.types, h.shipped⟩
  shared _ h := ⟨h.types, h.shipped⟩
  withoutRecords _ h := ⟨h.types, h.shipped⟩
  cached _ _ _ _ _ _ _ _ _ _ h _ := ⟨h.types, h.shipped⟩
  switched _ _ _ h := ⟨h.types, h.shipped⟩
  setUp m config s h hs := by
    rw [h.types] at hs
    exact ⟨h.types, setUp_shipped hs m⟩

theorem Reachable.shipped {m : Manager b} (hm : Reachable .standard m) : m.Shipped := by
  have hstandard : m.Standard := by
    apply standard_lasting.reachable _ hm
    intro reader link
    refine ⟨rfl, ?_⟩
    intro k c hc
    obtain ⟨hmem, rfl⟩ := Converters.mem_of_find? hc
    rcases Converters.mem_register hmem with rfl | hmem
    · rfl
    · cases hmem
  exact hstandard.shipped

end Manager

namespace Script

def refusing : State :=
  { overlapping with failing := ["SELECT * FROM bad_channels WHERE collection_id = 2"] }

def refusingManager : Manager backend :=
  Manager.afterwards Manager.getConditions
    [.configure overlappingConfig, .setDetector "HPS-TestRun-v5" 150]
    { types := .standard, reader := .base Files.none []
      link :=
        { parameters := some ⟨"t1", "x", "hps_conditions_test", "localhost", 5432, "mock"⟩
          handle := some (), world := refusing } }

theorem refusingManager_reachable : refusingManager.Reachable .standard :=
  .afterwards (.new _ _) _

theorem refusing_unchanged :
    refusingManager.Shipped ∧
      (final (Manager.getConditions (.collection (.channel .badChannel)) "bad")
        refusingManager).cache.entries.length = 1 ∧
      Manager.UpToRecords refusingManager
        (final (Manager.getConditions (.collection (.channel .badChannel)) "bad")
          refusingManager) ∧
      ∃ w, final (Operation.nextCollectionId "ecal_gains").run refusingManager =
        refusingManager.moved w :=
  have hs := refusingManager_reachable.shipped
  have hfailed := Manager.failed_unchanged refusingManager_reachable hs
  ⟨hs, rfl, hfailed.2 _ _ (State.failure "SELECT * FROM bad_channels WHERE collection_id = 2"
    "scripted failure") rfl,
    hfailed.1 (.nextCollectionId "ecal_gains") (.configuration (.noTableData "ecal_gains")) rfl rfl⟩

end Script
end RunConditions
