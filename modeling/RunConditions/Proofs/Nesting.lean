import RunConditions.Database.Script
import RunConditions.Proofs.Anew
import RunConditions.Proofs.Cache
import RunConditions.Proofs.Consistency

/-!
# Lookups within lookups

A converter may look further conditions up, and the converters of these may do
so in turn. A lookup ends if that goes only so deep. With converters of the
three sorts that ship every lookup ends, unless the records, by which all other
rows are selected, are themselves to be selected by the records. A configuration
that asks for this is accepted.
-/

set_option autoImplicit false

namespace RunConditions

namespace Types

def Known (ts : Types) : Prop :=
  ∀ name c, ts.find? name = some (.converter c) → c.Ships

theorem standard_known : standard.Known := fun _ _ hc =>
  Converter.ships_of_shipped (standard_shipped (converter_of_find? hc))

theorem Known.register {ts : Types} (ht : ts.Known) {c : Converter} (hc : c.Ships)
    (name : String) : (ts.register name (.converter c)).Known := by
  intro name' c' hc'
  rw [find?_register] at hc'
  split at hc'
  · cases hc'
    exact hc
  · exact ht name' c' hc'

end Types

def Config.SelectsRecords (types : Types) (config : Config) : Prop :=
  LastNamed types .records (.selected .record) config.converters

namespace Manager

variable {b : Backend} {m : Manager b} {k : Kind} {name : String} {types : Types}

/-- A lookup that allows `depth` more levels of lookups within lookups, with a way to
look conditions up below them. -/
def lookupOver (below : (k : Kind) → String → Step b k.Data) :
    Nat → (k : Kind) → String → Step b k.Data
  | 0, k, name => do
    match (← get).cache.data? k name with
    | some data => return data
    | none => below k name
  | depth + 1, k, name => do
    match (← get).cache.data? k name with
    | some data => return data
    | none => materialize (lookupOver below depth) k name

/-- The lookup comes to this result within finitely many levels, whatever would be
done below them. -/
def Ends (m : Manager b) (k : Kind) (name : String)
    (r : EStateM.Result Error (Manager b) k.Data) : Prop :=
  ∃ depth, ∀ below, lookupOver below depth k name m = r

section Levels

variable {below : (k : Kind) → String → Step b k.Data}

theorem lookupOver_of_cached {data : k.Data} (h : m.cache.data? k name = some data)
    (depth : Nat) : lookupOver below depth k name m = .ok data m := by
  cases depth <;> simp only [lookupOver, bind_apply, get_apply, h, pure_apply]

theorem lookupOver_zero_of_not_cached (h : m.cache.data? k name = none) :
    lookupOver below 0 k name m = below k name m := by
  simp only [lookupOver, bind_apply, get_apply, h]

theorem lookupOver_succ_of_not_cached (h : m.cache.data? k name = none) (depth : Nat) :
    lookupOver below (depth + 1) k name m = materialize (lookupOver below depth) k name m := by
  simp only [lookupOver, bind_apply, get_apply, h]

theorem lookup_eq_lookupOver (depth : Nat) (k : Kind) (name : String) :
    lookup (b := b) depth k name =
      lookupOver (fun k name => throw (.tooDeep k name)) depth k name := by
  induction depth generalizing k name with
  | zero => rfl
  | succ depth ih =>
    funext m
    cases hdata : m.cache.data? k name with
    | some data => rw [lookup_apply_of_cached hdata, lookupOver_of_cached hdata]
    | none =>
      rw [lookup_apply_of_not_cached hdata, lookupOver_succ_of_not_cached hdata,
        funext fun k => funext fun name => ih k name]

theorem lookupOver_add (depth more : Nat) (k : Kind) (name : String) :
    lookupOver below (depth + more) k name = lookupOver (lookupOver below more) depth k name := by
  induction depth generalizing k name with
  | zero =>
    funext m
    rw [Nat.zero_add]
    cases hdata : m.cache.data? k name with
    | some data => rw [lookupOver_of_cached hdata, lookupOver_of_cached hdata]
    | none => rw [lookupOver_zero_of_not_cached hdata]
  | succ depth ih =>
    rw [Nat.add_right_comm, lookupOver, lookupOver, funext fun k => funext fun name => ih k name]

theorem Ends.unique {r r' : EStateM.Result Error (Manager b) k.Data} (h : m.Ends k name r)
    (h' : m.Ends k name r') : r = r' := by
  obtain ⟨depth, h⟩ := h
  obtain ⟨depth', h'⟩ := h'
  have below : (k : Kind) → String → Step b k.Data := fun k name => throw (.tooDeep k name)
  calc r = lookupOver below (depth + depth') k name m := by rw [lookupOver_add, h]
    _ = lookupOver below (depth' + depth) k name m := by rw [Nat.add_comm]
    _ = r' := by rw [lookupOver_add, h']

end Levels

def SelectsRecords (m : Manager b) : Prop :=
  m.converters.find? .records = some (.selected .record)

/-- What is made for the kind is selected by the records, and so are the records. -/
structure Circular (m : Manager b) (k : Kind) : Prop where
  records : m.SelectsRecords
  made : (m.converters.find? k).isSome = true
  selected : k ≠ .detector

/-- The manager has these types and converters of the sorts that ship. Where the
records are selected by the records, descriptions are all that is cached. -/
structure Plain (types : Types) (m : Manager b) : Prop where
  types : m.types = types
  converters : ∀ c ∈ m.converters.list, c.Ships
  table : m.SelectsRecords → m.conditionsTable.isSome = true
  empty : m.SelectsRecords → ∀ k name, k ≠ .detector → m.cache.data? k name = none

theorem shipped_or_selected {c : Converter} (hm : m.Plain types)
    (hc : m.converters.find? k = some c) :
    Converter.shipped k = some c ∨ k = .records ∧ c = .selected .record := by
  obtain ⟨hmem, rfl⟩ := Converters.mem_of_find? hc
  rcases hm.converters c hmem with rfl | rfl | ⟨r, rfl⟩
  · exact Or.inl rfl
  · exact Or.inl rfl
  · by_cases hr : r = .record
    · exact Or.inr ⟨congrArg Kind.collection hr, congrArg Converter.selected hr⟩
    · exact Or.inl (Converter.shipped_collection hr)

theorem Plain.description_converter (hm : m.Plain types) :
    m.converters.find? .detector = none ∨ m.converters.find? .detector = some .detector := by
  cases hc : m.converters.find? .detector with
  | none => exact Or.inl rfl
  | some c =>
    rcases shipped_or_selected hm hc with hship | ⟨hrecords, -⟩
    · exact Or.inr (congrArg some (Option.some.inj hship).symm)
    · cases hrecords

theorem Plain.shipped (hm : m.Plain types) (hself : ¬ m.SelectsRecords) : m.Shipped := by
  intro k c hc
  rcases shipped_or_selected hm hc with hship | ⟨rfl, rfl⟩
  · exact hship
  · exact absurd hc hself

theorem Circular.find? (hm : m.Plain types) (hk : m.Circular k) :
    ∃ r, k = .collection r ∧ m.converters.find? k = some (.selected r) := by
  obtain ⟨c, hc⟩ := Option.isSome_iff_exists.mp hk.made
  rcases shipped_or_selected hm hc with hship | ⟨rfl, rfl⟩
  · cases k with
    | text => cases hship
    | detector => exact absurd rfl hk.selected
    | collection r =>
      by_cases hr : r = .record
      · exact ⟨r, rfl, hr ▸ hk.records⟩
      · rw [Converter.shipped_collection hr, Option.some.injEq] at hship
        exact ⟨r, rfl, hship ▸ hc⟩
  · exact ⟨.record, rfl, hc⟩

theorem Circular.toRecords (hk : m.Circular k) : m.Circular .records where
  records := hk.records
  made := by rw [hk.records]; rfl
  selected := by simp

theorem lookupOver_of_circular (hm : m.Plain types) (hk : m.Circular k)
    (below : Kind → String → Error) (depth : Nat) (name : String) :
    ∃ k' name', lookupOver (fun k name => throw (below k name)) depth k name m =
      .error (below k' name') m := by
  induction depth generalizing k name with
  | zero =>
    have hdata := hm.empty hk.records k name hk.selected
    exact ⟨k, name, lookupOver_zero_of_not_cached hdata⟩
  | succ depth ih =>
    have hdata := hm.empty hk.records k name hk.selected
    obtain ⟨table, htable⟩ := Option.isSome_iff_exists.mp (hm.table hk.records)
    obtain ⟨r, rfl, hc⟩ := hk.find? hm
    -- The plan selects by the records first, and these are circular one level further down.
    obtain ⟨k', name', hrecords⟩ := ih hk.toRecords table
    refine ⟨k', name', ?_⟩
    rw [lookupOver_succ_of_not_cached hdata,
      materialize_apply_of_honest (k := .collection r) hc, carryOut_selectedPlan,
      carryOut_findRecords, htable]
    dsimp only
    rw [hrecords]

theorem not_ends_of_circular (hm : m.Plain types) (hk : m.Circular k) (name : String)
    (r : EStateM.Result Error (Manager b) k.Data) : ¬ m.Ends k name r := by
  rintro ⟨depth, hends⟩
  obtain ⟨-, -, hone⟩ :=
    lookupOver_of_circular hm hk (fun _ _ => .notFound .noDetector) depth name
  obtain ⟨-, -, other⟩ :=
    lookupOver_of_circular hm hk (fun _ _ => .configuration .notConfigured) depth name
  -- Both errors come from below, so that the lookup has no result of its own.
  rw [hends] at hone other
  rw [hone] at other
  cases other

structure Has (types : Types) (cs : Converters) (m : Manager b) : Prop where
  types : m.types = types
  converters : m.converters = cs

theorem has_transparent {cs : Converters}
    (hcs : ∀ k c, cs.find? k = some c → Converter.shipped k = some c) :
    Transparent (Both (Has (b := b) types cs)) where
  context := Both.sameContext
  shipped := by
    rintro m _ ⟨rfl, hm⟩ k c hc
    exact hcs k c (hm.converters ▸ hc)
  select sql := by
    apply Keeps.alike
    intro m hm
    rw [select, final_onLink]
    exact ⟨hm.types, hm.converters⟩
  cached := by
    rintro m _ k name payload ⟨rfl, hm⟩
    exact ⟨rfl, hm.types, hm.converters⟩

/-- How deep lookups may go, and what is done below, does not matter once it is
deep enough for the kind. -/
theorem lookupOver_alike {P : Manager b → Prop} (hP : Transparent (Both P))
    (below below' : (k : Kind) → String → Step b k.Data) {d d' : Nat} (hd : k.levels ≤ d)
    (hd' : k.levels ≤ d') (name : String) :
    Alike (Both P) (lookupOver below d k name) (lookupOver below' d' k name) := by
  induction d generalizing k d' name with
  | zero => exact absurd hd (Nat.not_le.mpr k.levels_pos)
  | succ e ih =>
    cases d' with
    | zero => exact absurd hd' (Nat.not_le.mpr k.levels_pos)
    | succ e' =>
      refine Alike.get_bind ?_
      rintro m _ ⟨rfl, -⟩
      cases m.cache.data? k name with
      | some data => exact Alike.pure data
      | none =>
        refine materialize_alike hP (fun hk table => ?_) name
        exact ih (Kind.records_levels_le hk hd) (Kind.records_levels_le hk hd') table

theorem getConditions_alike {cs : Converters}
    (hcs : ∀ k c, cs.find? k = some c → Converter.shipped k = some c)
    (below : (k : Kind) → String → Step b k.Data) (k : Kind) (name : String) :
    Alike (Both (Has types cs)) (getConditions k name) (lookupOver below k.levels k name) := by
  rw [getConditions, lookup_eq_lookupOver]
  exact lookupOver_alike (has_transparent hcs) _ _ k.levels_le (Nat.le_refl _) name

theorem ends_of_shipped (hm : m.Shipped) (k : Kind) (name : String) :
    m.Ends k name (getConditions k name m) :=
  ⟨k.levels, fun below => ((getConditions_alike hm below k name).apply_eq ⟨rfl, rfl⟩).symm⟩

theorem Plain.materialize_eq (hm : m.Plain types) (hself : m.SelectsRecords)
    (hk : ¬ m.Circular k) (look look' : (k : Kind) → String → Step b k.Data) (name : String) :
    materialize look k name m = materialize look' k name m := by
  by_cases hdetector : k = .detector
  · subst hdetector
    rcases hm.description_converter with hc | hc
    · rw [materialize_apply, materialize_apply, hc]
    · rw [materialize_apply_of_honest (k := .detector) hc,
        materialize_apply_of_honest (k := .detector) hc, carryOut_detectorPlan,
        carryOut_detectorPlan]
  · have hc : m.converters.find? k = none := by
      cases hmade : m.converters.find? k with
      | none => rfl
      | some c => exact absurd ⟨hself, by rw [hmade]; rfl, hdetector⟩ hk
    rw [materialize_apply, materialize_apply, hc]

theorem ends_of_not_circular (hm : m.Plain types) (hk : ¬ m.Circular k) (name : String) :
    m.Ends k name (getConditions k name m) := by
  by_cases hself : m.SelectsRecords
  · refine ⟨1, fun below => ?_⟩
    cases hdata : m.cache.data? k name with
    | some data => rw [lookupOver_of_cached hdata, getConditions_apply_of_cached hdata]
    | none =>
      calc lookupOver below 1 k name m
          = materialize (lookupOver below 0) k name m := lookupOver_succ_of_not_cached hdata 0
        _ = materialize (lookup 255) k name m := hm.materialize_eq hself hk _ _ name
        _ = getConditions k name m := (getConditions_apply_of_not_cached hdata).symm
  · exact ends_of_shipped (hm.shipped hself) k name

section Keeping

theorem plain_stable : Stable (Plain (b := b) types) where
  link _ _ h := ⟨h.types, h.converters, h.table, h.empty⟩
  reader _ _ h := ⟨h.types, h.converters, h.table, h.empty⟩
  shared _ h := ⟨h.types, h.converters, h.table, h.empty⟩
  withoutRecords m h := by
    refine ⟨h.types, h.converters, h.table, fun hself k name hk => ?_⟩
    by_cases hrecords : k = .records
    · rw [hrecords]
      exact Cache.data?_without_self _ _ _
    · exact (Cache.data?_without_of_ne hrecords _ _).trans (h.empty hself k name hk)

theorem plain_held (ht : types.Known) : Held (Plain (b := b) types) := by
  apply plain_stable.held
  · intro m config s h hs
    rw [h.types] at hs
    have hknown : ∀ name c, types.converter name = .ok c → c.Ships :=
      fun name c hc => ht name c (Types.find?_of_converter hc)
    exact ⟨h.types, setup_converters hknown (Or.inr (Or.inl rfl)) hs, fun _ => rfl,
      fun _ _ _ _ => rfl⟩
  · intro m detector run h
    exact ⟨h.types, h.converters, h.table, fun _ _ _ _ => rfl⟩

theorem Plain.cachedDescription (hm : m.Plain types) (name : String) (payload : Payload) :
    (m.cached .detector name payload).Plain types := by
  refine ⟨hm.types, hm.converters, hm.table, fun hself k name' hk => ?_⟩
  refine (Cache.data?_insert _ _ _ _).trans ?_
  rw [if_neg fun hfor => hk (CacheEntry.isFor_iff.mp hfor).1.symm]
  exact hm.empty hself k name' hk

theorem Plain.getDescription (hm : m.Plain types) (name : String) :
    (final (getConditions .detector name) m).Plain types := by
  cases hdata : m.cache.data? .detector name with
  | some d =>
    rw [final, getConditions_apply_of_cached hdata]
    exact hm
  | none =>
    rw [final, getConditions_apply_of_not_cached hdata]
    rcases hm.description_converter with hc | hc
    · rw [materialize_apply, hc]
      exact hm
    · rw [materialize_apply_of_honest (k := .detector) hc, carryOut_detectorPlan]
      cases m.detector with
      | none => exact hm
      | some detector =>
        dsimp only
        cases m.reader.openText name with
        | error e => exact hm
        | ok xml => exact hm.cachedDescription name _

theorem getConditions_plain (k : Kind) (name : String) :
    Keeps (Plain (b := b) types) (getConditions k name) := by
  intro m hm
  by_cases hself : m.SelectsRecords
  · by_cases hk : k = .detector
    · subst hk
      exact hm.getDescription name
    · cases hmade : (m.converters.find? k).isSome with
      | true =>
        obtain ⟨k', name', hfails⟩ :=
          lookupOver_of_circular hm ⟨hself, hmade, hk⟩ Error.tooDeep nestingLimit name
        rw [final, getConditions, lookup_eq_lookupOver, hfails]
        exact hm
      | false =>
        have hnone : m.converters.find? k = none := by simpa using hmade
        rw [final, getConditions_apply_of_not_cached (hm.empty hself k name hk),
          materialize_apply, hnone]
        exact hm
  · have hhas : Has types m.converters (final (getConditions k name) m) :=
      (getConditions_alike (hm.shipped hself) getConditions k name).keeps m ⟨hm.types, rfl⟩
    have hstill : ¬ (final (getConditions k name) m).SelectsRecords := by
      rwa [SelectsRecords, hhas.converters]
    refine ⟨hhas.types, ?_, fun h => absurd h hstill, fun h => absurd h hstill⟩
    rw [hhas.converters]
    exact hm.converters

theorem Reachable.plain (ht : types.Known) (hm : m.Reachable types) : m.Plain types := by
  induction hm with
  | new reader link =>
    refine ⟨rfl, fun c hc => ?_, fun hself => (by cases hself), fun hself => (by cases hself)⟩
    rcases Converters.mem_register hc with rfl | hc
    · exact Or.inr (Or.inl rfl)
    · cases hc
  | @step m op _ ih =>
    have hlook : ∀ k name, Alike (Both (Plain types)) (getConditions (b := b) k name)
        (getConditions k name) :=
      fun k name => (getConditions_plain k name).alike
    exact ((plain_held ht).runBy_alike hlook op).keeps m ih
  | @drift m world _ ih => exact plain_stable.link m _ ih

end Keeping

theorem circular_iff_of_configure {config : Config} {m' : Manager b}
    (hrun : configure config m = .ok ⟨⟩ m') :
    (∃ k, m'.Circular k) ↔ config.SelectsRecords m.types := by
  cases hs : setup m.types config with
  | error e =>
    rw [configure_apply_of_error hs] at hrun
    cases hrun
  | ok s =>
    rw [configure_apply hs, EStateM.Result.ok.injEq] at hrun
    obtain ⟨-, hrealizes⟩ := consistent_of_setup hs
    have hrecords : m'.SelectsRecords ↔ config.SelectsRecords m.types := by
      rw [SelectsRecords, ← hrun.2]
      refine (hrealizes.converters _ _).trans ⟨?_, Or.inl⟩
      rintro (hlast | ⟨hk, -⟩)
      · exact hlast
      · cases hk
    rw [← hrecords]
    constructor
    · rintro ⟨k, hk⟩
      exact hk.records
    · intro hself
      exact ⟨.records, hself, by rw [hself]; rfl, by simp⟩

/-- With converters of the sorts that ship, in every manager that callers can have
just those lookups end that are not circular, with the result of the lookups of the
manager. A configuration that is accepted has circular lookups just if it has the
records selected by the records. -/
theorem lookups_end (ht : types.Known) (hm : m.Reachable types) :
    (∀ k name, (∃ r, m.Ends k name r) ↔ ¬ m.Circular k) ∧
      (∀ k name r, m.Ends k name r → getConditions k name m = r) ∧
      ∀ config m', configure config m = .ok ⟨⟩ m' →
        ((∃ k, m'.Circular k) ↔ config.SelectsRecords types) := by
  have hplain := hm.plain ht
  refine ⟨fun k name => ?_, fun k name r hr => ?_, fun config m' hrun => ?_⟩
  · constructor
    · rintro ⟨r, hr⟩ hk
      exact not_ends_of_circular hplain hk name r hr
    · intro hk
      exact ⟨_, ends_of_not_circular hplain hk name⟩
  · by_cases hk : m.Circular k
    · exact absurd hr (not_ends_of_circular hplain hk name r)
    · exact (ends_of_not_circular hplain hk name).unique hr
  · rw [← hplain.types]
    exact circular_iff_of_configure hrun

end Manager

namespace Script

def circularTypes : Types :=
  Types.standard.register "RecordsByRunConverter" (.converter (.selected .record))

theorem circularTypes_known : circularTypes.Known :=
  Types.standard_known.register (Or.inr (Or.inr ⟨.record, rfl⟩)) _

def circularConfig : Config where
  tables :=
    [⟨"conditions", "id", "ConditionsRecord", "ConditionsRecordCollection", Record.columns⟩]
  converters := ["RecordsByRunConverter"]

def circularManager : Manager backend :=
  Manager.afterwards Manager.getConditions
    [.configure circularConfig, .setDetector "HPS-TestRun-v5" 150]
    { types := circularTypes, reader := .base Files.none []
      link :=
        { parameters := some ⟨"t1", "x", "hps_conditions_test", "localhost", 5432, "mock"⟩
          handle := some (), world := { closed := false } } }

theorem circularManager_reachable : circularManager.Reachable circularTypes :=
  .afterwards (.new _ _) _

theorem circularManager_circular : circularManager.Circular .records where
  records := rfl
  made := rfl
  selected := by simp

theorem circular_lookups :
    circularTypes.Known ∧ circularManager.Reachable circularTypes ∧
      (∀ name, ¬ ∃ r, circularManager.Ends .records name r) ∧
      (∀ name, ∃ r, circularManager.Ends .detector name r) ∧
      circularConfig.SelectsRecords circularTypes :=
  have hends := Manager.lookups_end circularTypes_known circularManager_reachable
  ⟨circularTypes_known, circularManager_reachable,
    fun name h => (hends.1 .records name).mp h circularManager_circular,
    fun name => (hends.1 .detector name).mpr fun hk => hk.selected rfl,
    (hends.2.2 circularConfig _ rfl).mp ⟨.records, rfl, rfl, by simp⟩⟩

/-- A manager that is configured and connected, with converters of the sorts that
ship, has a lookup that does not end. -/
theorem records_never_end :
    circularTypes.Known ∧ circularManager.Reachable circularTypes ∧
      circularManager.configured = true ∧ circularManager.isConnected = true ∧
      ¬ ∃ r, circularManager.Ends .records "conditions" r :=
  ⟨circularTypes_known, circularManager_reachable, rfl, rfl, fun ⟨r, hr⟩ =>
    Manager.not_ends_of_circular (circularManager_reachable.plain circularTypes_known)
      circularManager_circular "conditions" r hr⟩

end Script
end RunConditions
