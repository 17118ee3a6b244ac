import RunConditions.Database.Script
import RunConditions.Proofs.Cache
import RunConditions.Proofs.Shipped
import RunConditions.Proofs.Stable

/-!
# What is cached is current

Every entry of the cache holds data of the kind that it is cached under and
bears the run and the detector that are current, whatever converters do and
whichever operations fail. Cached data can therefore always be taken as what
they are cached for.
-/

set_option autoImplicit false

namespace RunConditions

def Types.DetectorShipped (ts : Types) : Prop :=
  ∀ name c, ts.converter name = .ok c → c.output = .detector → c = .detector

namespace Manager

variable {b : Backend}

structure CacheSound (m : Manager b) : Prop where
  distinct : m.cache.entries.Pairwise fun e e' => ¬ (e.kind = e'.kind ∧ e.name = e'.name)
  kind : ∀ e ∈ m.cache.entries, e.payload.kind = e.kind
  run : ∀ e ∈ m.cache.entries, e.run = m.run
  detector : ∀ e ∈ m.cache.entries, e.detector = m.detector
  description : ∀ e ∈ m.cache.entries, ∀ d, e.payload = ⟨.detector, d⟩ →
    m.detector = some d.name

theorem CacheSound.of_empty {m : Manager b} (h : m.cache = {}) : m.CacheSound := by
  have hnone : ∀ e, e ∉ m.cache.entries := by
    intro e he
    rw [h] at he
    cases he
  refine ⟨?_, fun e he => absurd he (hnone e), fun e he => absurd he (hnone e),
    fun e he => absurd he (hnone e), fun e he => absurd he (hnone e)⟩
  rw [h]
  exact .nil

theorem CacheSound.of_same {m m' : Manager b} (h : m.CacheSound) (hc : m'.cache = m.cache)
    (hr : m'.run = m.run) (hd : m'.detector = m.detector) : m'.CacheSound := by
  refine ⟨?_, ?_, ?_, ?_, ?_⟩ <;> simp only [hc, hr, hd]
  · exact h.distinct
  · exact h.kind
  · exact h.run
  · exact h.detector
  · exact h.description

theorem CacheSound.withoutRecords {m : Manager b} (h : m.CacheSound) :
    m.withoutRecords.CacheSound where
  distinct := h.distinct.filter _
  kind e he := h.kind e (Cache.mem_without he).1
  run e he := h.run e (Cache.mem_without he).1
  detector e he := h.detector e (Cache.mem_without he).1
  description e he := h.description e (Cache.mem_without he).1

theorem CacheSound.cached {m : Manager b} (h : m.CacheSound) {k : Kind} {payload : Payload}
    (hk : payload.kind = k) (hd : ∀ d, payload = ⟨.detector, d⟩ → m.detector = some d.name)
    (name : String) : (m.cached k name payload).CacheSound where
  distinct := by
    refine List.pairwise_cons.mpr ⟨fun e he => ?_, h.distinct.filter _⟩
    have hne := (List.mem_filter.mp he).2
    rintro ⟨hkind, hname⟩
    rw [CacheEntry.isFor_iff.mpr ⟨hkind.symm, hname.symm⟩] at hne
    cases hne
  kind e he := by
    rcases Cache.mem_insert he with rfl | he
    · exact hk
    · exact h.kind e he
  run e he := by
    rcases Cache.mem_insert he with rfl | he
    · rfl
    · exact h.run e he
  detector e he := by
    rcases Cache.mem_insert he with rfl | he
    · rfl
    · exact h.detector e he
  description e he := by
    rcases Cache.mem_insert he with rfl | he
    · exact hd
    · exact h.description e he

theorem CacheSound.as?_of_find? {m : Manager b} (h : m.CacheSound) {k : Kind} {name : String}
    {e : CacheEntry} (he : m.cache.find? k name = some e) :
    ∃ data, e.payload.as? k = some data := by
  obtain ⟨hmem, hkind, -⟩ := Cache.mem_of_find? he
  cases ha : e.payload.as? k with
  | some data => exact ⟨data, rfl⟩
  | none => exact absurd ((h.kind e hmem).trans hkind) (Payload.as?_eq_none_iff.mp ha)

theorem CacheSound.cachedCount {m : Manager b} (h : m.CacheSound) :
    m.cachedCount = m.cache.entries.length := by
  rw [Manager.cachedCount, Cache.count, List.filter_eq_self.mpr]
  intro e he
  rw [h.run e he, h.detector e he]
  simp

structure Current (types : Types) (m : Manager b) : Prop where
  types : m.types = types
  converter : ∀ c ∈ m.converters.list, c.output = .detector → c = .detector
  sound : m.CacheSound

theorem detector_of_carryOut {look : (k : Kind) → String → Step b k.Data} {name : String}
    {d : Detector} {m m' : Manager b}
    (h : carryOut look (Converter.detector.plan name) m = .ok ⟨.detector, d⟩ m') :
    m'.detector = some d.name := by
  rw [Converter.detector, carryOut_honest, bind_apply, carryOut_detectorPlan] at h
  cases hd : m.detector with
  | none => simp [hd] at h
  | some detector =>
    cases hx : m.reader.openText name with
    | error e => simp [hd, hx] at h
    | ok xml =>
      simp only [hd, hx, pure_apply, EStateM.Result.ok.injEq] at h
      obtain ⟨hp, rfl⟩ := h
      cases hp
      exact hd

theorem current_lasting {types : Types} (hd : types.DetectorShipped) :
    Lasting (Current (b := b) types) where
  link _ _ h := ⟨h.types, h.converter, h.sound.of_same rfl rfl rfl⟩
  reader _ _ h := ⟨h.types, h.converter, h.sound.of_same rfl rfl rfl⟩
  shared _ h := ⟨h.types, h.converter, h.sound.of_same rfl rfl rfl⟩
  withoutRecords _ h := ⟨h.types, h.converter, h.sound.withoutRecords⟩
  cached look k name c payload m m' h hc hmade h' hk := by
    refine ⟨h'.types, h'.converter, h'.sound.cached hk (fun d hp => ?_) name⟩
    obtain ⟨hmem, hout⟩ := Converters.mem_of_find? hc
    rw [hp] at hk hmade
    obtain rfl := h.converter c hmem (hout.trans hk.symm)
    exact detector_of_carryOut hmade
  setUp m config s h hs := by
    rw [h.types] at hs
    exact ⟨h.types, setup_converters hd (fun _ => rfl) hs, CacheSound.of_empty rfl⟩
  switched _ _ _ h := ⟨h.types, h.converter, CacheSound.of_empty rfl⟩

theorem current_new (types : Types) (reader : Reader) (link : Link b) :
    Current types { types, reader, link } where
  types := rfl
  converter c hc _ := by
    rcases Converters.mem_register hc with rfl | hc
    · rfl
    · cases hc
  sound := CacheSound.of_empty rfl

/-- A lookup that goes its own way when it finds data of a wrong kind. -/
def lookupOr (otherwise : (k : Kind) → String → Step b k.Data) :
    Nat → (k : Kind) → String → Step b k.Data
  | 0, k, name => do
    match (← get).cache.find? k name with
    | some e =>
      match e.payload.as? k with
      | some data => return data
      | none => otherwise k name
    | none => throw (.tooDeep k name)
  | depth + 1, k, name => do
    match (← get).cache.find? k name with
    | some e =>
      match e.payload.as? k with
      | some data => return data
      | none => otherwise k name
    | none => materialize (lookupOr otherwise depth) k name

theorem lookupOr_alike {P : Manager b → Prop} (hl : Lasting P) (hsound : ∀ m, P m → m.CacheSound)
    (otherwise : (k : Kind) → String → Step b k.Data) (depth : Nat) (k : Kind) (name : String) :
    Alike (Both P) (lookupOr otherwise depth k name) (lookup depth k name) := by
  induction depth generalizing k name with
  | zero =>
    refine Alike.get_bind ?_
    rintro m _ ⟨rfl, hp⟩
    rw [Cache.data?]
    cases he : m.cache.find? k name with
    | none => exact Alike.throw _
    | some e =>
      obtain ⟨data, hdata⟩ := (hsound m hp).as?_of_find? he
      simp only [Option.bind_some, hdata]
      exact Alike.pure data
  | succ depth ih =>
    refine Alike.get_bind ?_
    rintro m _ ⟨rfl, hp⟩
    rw [Cache.data?]
    cases he : m.cache.find? k name with
    | none => exact hl.kept.materialize_alike ih k name
    | some e =>
      obtain ⟨data, hdata⟩ := (hsound m hp).as?_of_find? he
      simp only [Option.bind_some, hdata]
      exact Alike.pure data

/-- In every manager that callers can have the cache is sound, all its entries
count, and no lookup within any operation finds data of a wrong kind. -/
theorem cache_sound {types : Types} (hd : types.DetectorShipped) {m : Manager b}
    (hm : Reachable types m) :
    m.CacheSound ∧ m.cachedCount = m.cache.entries.length ∧
      ∀ (otherwise : (k : Kind) → String → Step b k.Data) (op : Operation),
        op.runBy (lookupOr otherwise nestingLimit) m = op.run m := by
  have hl := current_lasting (b := b) hd
  have hc : Current types m := hl.reachable (current_new types) hm
  refine ⟨hc.sound, hc.sound.cachedCount, fun otherwise op => ?_⟩
  have hlook := lookupOr_alike hl (fun _ h => h.sound) otherwise nestingLimit
  exact (hl.runBy_alike hlook op).apply_eq hc

end Manager
namespace Script

def deceivingTypes : Types :=
  Types.standard.register "DeceivingConverter"
    (.converter { output := .text, plan := fun name => return ⟨.detector, ⟨name, ""⟩⟩ })

theorem deceivingTypes_detectorShipped : deceivingTypes.DetectorShipped := by
  intro name c hc hout
  rcases List.mem_cons.mp (Types.converter_mem hc) with heq | hmem
  · simp only [Prod.mk.injEq, Registered.converter.injEq] at heq
    rw [heq.2] at hout
    cases hout
  · simp only [Types.standard, List.mem_cons, Prod.mk.injEq, Registered.converter.injEq,
      reduceCtorEq, and_false, false_or, List.not_mem_nil, or_false] at hmem
    rcases hmem with ⟨-, rfl⟩ | ⟨-, rfl⟩ | ⟨-, rfl⟩ | ⟨-, rfl⟩ | ⟨-, rfl⟩
    · cases hout
    · rfl
    · cases hout
    · cases hout
    · cases hout

def deceivedManager : Manager backend :=
  Manager.afterwards Manager.getConditions
    [.configure
      { tables :=
          [⟨"conditions", "id", "ConditionsRecord", "ConditionsRecordCollection", Record.columns⟩]
        converters := ["ConditionsRecordConverter", "DeceivingConverter"] },
     .setDetector "HPS-TestRun-v5" 150, .getConditions .text "compact.xml", .getDetector]
    { types := deceivingTypes, reader := { find := fun _ _ => .ok "<lcdd/>" }
      link :=
        { parameters := some ⟨"t1", "x", "hps_conditions_test", "localhost", 5432, "mock"⟩
          handle := some (), world := { closed := false } } }

theorem deceivedManager_sound :
    deceivedManager.cache.entries.length = 1 ∧ deceivingTypes.DetectorShipped ∧
      deceivedManager.Reachable deceivingTypes ∧ deceivedManager.CacheSound ∧
      deceivedManager.cachedCount = deceivedManager.cache.entries.length ∧
      ∀ (otherwise : (k : Kind) → String → Step backend k.Data) (op : Operation),
        op.runBy (Manager.lookupOr otherwise Manager.nestingLimit) deceivedManager =
          op.run deceivedManager :=
  have hm : deceivedManager.Reachable deceivingTypes := .afterwards (.new _ _) _
  ⟨by decide, deceivingTypes_detectorShipped, hm,
    Manager.cache_sound deceivingTypes_detectorShipped hm⟩

end Script
end RunConditions
