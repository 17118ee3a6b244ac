import RunConditions.Proofs.Shipped

/-!
# Looking conditions up anew

A lookup that never looks into the cache makes its data with the converters
each time. What it finds depends on the configuration, the detector and run,
the reader and the database, but not on what has been looked up before.
-/

set_option autoImplicit false

namespace RunConditions

def Kind.levels : Kind → Nat
  | .collection .record => 1
  | .collection _ => 2
  | .detector | .text => 1

theorem Kind.levels_collection {c : CollectionType} (hc : c ≠ .record) :
    (Kind.collection c).levels = 2 := by
  cases c with
  | record => exact absurd rfl hc
  | channel t => rfl
  | own name r => rfl

theorem Kind.levels_pos (k : Kind) : 1 ≤ k.levels := by
  cases k with
  | collection c => cases c <;> simp [Kind.levels]
  | detector => exact Nat.le_refl 1
  | text => exact Nat.le_refl 1

theorem Kind.levels_le (k : Kind) : k.levels ≤ Manager.nestingLimit := by
  have h : k.levels ≤ 2 := by
    cases k with
    | collection c => cases c <;> simp [Kind.levels]
    | detector => exact Nat.le_succ 1
    | text => exact Nat.le_succ 1
  exact Nat.le_trans h (by decide)

theorem Kind.records_levels_le {k : Kind} (hk : k.levels = 2) {d : Nat} (hd : k.levels ≤ d + 1) :
    Kind.records.levels ≤ d := by
  show 1 ≤ d
  omega

namespace Manager

variable {b : Backend} {α β : Type}

/-- A lookup that never looks into the cache and allows `depth` more levels. -/
def lookupAnew : Nat → (kind : Kind) → String → Step b kind.Data
  | 0, kind, name => throw (.tooDeep kind name)
  | depth + 1, kind, name => materialize (lookupAnew depth) kind name

def getAnew (kind : Kind) (name : String) : Step b kind.Data :=
  lookupAnew nestingLimit kind name

structure SameContext (m m' : Manager b) : Prop where
  reader : m.reader = m'.reader
  tables : m.tables = m'.tables
  converters : m.converters = m'.converters
  conditionsTable : m.conditionsTable = m'.conditionsTable
  detector : m.detector = m'.detector
  run : m.run = m'.run

theorem Both.sameContext {P : Manager b → Prop} (m m' : Manager b) (h : Both P m m') :
    SameContext m m' := by
  obtain ⟨rfl, -⟩ := h
  exact ⟨rfl, rfl, rfl, rfl, rfl, rfl⟩

section Plans

variable {R : Manager b → Manager b → Prop} {look look' : (k : Kind) → String → Step b k.Data}

theorem bind_alike {p : Plan α} {f : α → Plan β}
    (hp : Alike R (carryOut look p) (carryOut look' p))
    (hf : ∀ a, Alike R (carryOut look (f a)) (carryOut look' (f a))) :
    Alike R (carryOut look (p >>= f)) (carryOut look' (p >>= f)) := by
  rw [carryOut_bind, carryOut_bind]
  exact hp.bind hf

theorem ofOption_alike (e : Error) (o : Option α) :
    Alike R (carryOut look (Plan.ofOption e o)) (carryOut look' (Plan.ofOption e o)) := by
  cases o with
  | none => exact Alike.throw e
  | some a => exact Alike.pure a

theorem ofExcept_alike (r : Except Error α) :
    Alike R (carryOut look (Plan.ofExcept r)) (carryOut look' (Plan.ofExcept r)) := by
  rw [carryOut_ofExcept, carryOut_ofExcept]
  exact Alike.conclude r

theorem request_alike {q : Request} (h : Alike R (perform look q) (perform look' q)) :
    Alike R (carryOut look (Plan.request q)) (carryOut look' (Plan.request q)) := by
  rw [carryOut_request, carryOut_request]
  exact h

theorem view_bind_alike (hR : ∀ m m', R m m' → SameContext m m') {f : View → Plan α}
    (hf : ∀ v v' : View, v.run = v'.run → v.detector = v'.detector →
      v.conditionsTable = v'.conditionsTable → v.tables = v'.tables → f v = f v')
    (h : ∀ v, Alike R (carryOut look (f v)) (carryOut look' (f v))) :
    Alike R (carryOut look (Plan.request .view >>= f))
      (carryOut look' (Plan.request .view >>= f)) := by
  intro m m' hr
  have hs := hR m m' hr
  have hv : f m.view = f m'.view := hf _ _ hs.run hs.detector hs.conditionsTable hs.tables
  rw [carryOut_bind, carryOut_bind, carryOut_view, carryOut_view]
  show outcome (carryOut look (f m.view)) m = outcome (carryOut look' (f m'.view)) m' ∧
    R (final (carryOut look (f m.view)) m) (final (carryOut look' (f m'.view)) m')
  rw [← hv]
  exact h m.view m m' hr

theorem recordsPlan_alike (hR : ∀ m m', R m m' → SameContext m m')
    (hselect : ∀ sql, Alike R (select sql) (select sql)) :
    Alike R (carryOut look Converter.recordsPlan) (carryOut look' Converter.recordsPlan) := by
  refine view_bind_alike hR (fun v v' _ _ hc ht => by rw [hc, ht]) fun v => ?_
  refine bind_alike (ofOption_alike _ _) fun name => ?_
  refine bind_alike (ofOption_alike _ _) fun table => ?_
  refine bind_alike (request_alike (hselect _)) fun result => ?_
  exact ofExcept_alike _

theorem findRecords_alike (hR : ∀ m m', R m m' → SameContext m m')
    (hlook : ∀ name, Alike R (look .records name) (look' .records name)) (name : String) :
    Alike R (carryOut look (Plan.findRecords name)) (carryOut look' (Plan.findRecords name)) := by
  refine view_bind_alike hR (fun v v' _ _ hc _ => by rw [hc]) fun v => ?_
  refine bind_alike (ofOption_alike _ _) fun table => ?_
  exact bind_alike (request_alike (hlook table)) fun all => Alike.pure _

theorem selectedPlan_alike (hR : ∀ m m', R m m' → SameContext m m')
    (hselect : ∀ sql, Alike R (select sql) (select sql))
    (hlook : ∀ name, Alike R (look .records name) (look' .records name))
    (c : CollectionType) (name : String) :
    Alike R (carryOut look (Converter.selectedPlan c name))
      (carryOut look' (Converter.selectedPlan c name)) := by
  refine view_bind_alike hR (fun v v' hr _ _ _ => by simp only [hr]) fun v => ?_
  refine bind_alike (findRecords_alike hR hlook name) fun records => ?_
  refine bind_alike (ofOption_alike _ _) fun record => ?_
  refine view_bind_alike hR (fun v v' _ _ _ ht => by rw [ht]) fun v => ?_
  refine bind_alike (ofOption_alike _ _) fun table => ?_
  split
  · exact Alike.throw _
  · refine bind_alike (request_alike (hselect _)) fun result => ?_
    exact bind_alike (ofExcept_alike _) fun rows => Alike.pure _

theorem detectorPlan_alike (hR : ∀ m m', R m m' → SameContext m m') (name : String) :
    Alike R (carryOut look (Converter.detectorPlan name))
      (carryOut look' (Converter.detectorPlan name)) := by
  refine view_bind_alike hR (fun v v' _ hd _ _ => by rw [hd]) fun v => ?_
  refine bind_alike (ofOption_alike _ _) fun detector => ?_
  refine bind_alike (request_alike ?_) fun xml => Alike.pure _
  exact openText_alike name fun m m' h => (hR m m' h).reader

/-- Only the collections that records name rows of look something else up, the records. -/
theorem shipped_alike (hR : ∀ m m', R m m' → SameContext m m')
    (hselect : ∀ sql, Alike R (select sql) (select sql)) {k : Kind} {c : Converter}
    (hc : Converter.shipped k = some c)
    (hlook : k.levels = 2 → ∀ name, Alike R (look .records name) (look' .records name))
    (name : String) :
    Alike R (carryOut look (c.plan name)) (carryOut look' (c.plan name)) := by
  cases k with
  | collection rows =>
    by_cases hrows : rows = .record
    · subst hrows
      obtain rfl : Converter.records = c := Option.some.inj hc
      exact bind_alike (recordsPlan_alike hR hselect) fun _ => Alike.pure _
    · rw [Converter.shipped_collection hrows] at hc
      obtain rfl : Converter.selected rows = c := Option.some.inj hc
      have hlook := hlook (Kind.levels_collection hrows)
      exact bind_alike (selectedPlan_alike hR hselect hlook rows name) fun _ => Alike.pure _
  | detector =>
    obtain rfl : Converter.detector = c := Option.some.inj hc
    exact bind_alike (detectorPlan_alike hR name) fun _ => Alike.pure _
  | text => cases hc

/-- A relation under which looking conditions up anew goes alike. -/
structure Transparent (R : Manager b → Manager b → Prop) : Prop where
  context : ∀ m m', R m m' → SameContext m m'
  shipped : ∀ m m', R m m' → m.Shipped
  select : ∀ sql, Alike R (select sql) (select sql)
  cached : ∀ m m' k n p, R m m' → R (m.cached k n p) (m'.cached k n p)

theorem materialize_alike (hR : Transparent R) {k : Kind}
    (hlook : k.levels = 2 → ∀ name, Alike R (look .records name) (look' .records name))
    (name : String) : Alike R (materialize look k name) (materialize look' k name) := by
  refine Alike.get_bind fun m m' hr => ?_
  rw [← (hR.context m m' hr).converters]
  cases hc : m.converters.find? k with
  | none => exact Alike.throw _
  | some c =>
    have hship := hR.shipped m m' hr k c hc
    refine (shipped_alike hR.context hR.select hship hlook name).bind fun payload => ?_
    cases payload.as? k with
    | none => exact Alike.throw _
    | some data =>
      exact (Alike.modify fun m m' hr => hR.cached m m' k name payload hr).bind
        fun _ => Alike.pure data

end Plans

theorem lookupAnew_alike {R : Manager b → Manager b → Prop} (hR : Transparent R) {k : Kind}
    {d d' : Nat} (hd : k.levels ≤ d) (hd' : k.levels ≤ d') (name : String) :
    Alike R (lookupAnew d k name) (lookupAnew d' k name) := by
  induction d generalizing k d' name with
  | zero => exact absurd hd (Nat.not_le.mpr k.levels_pos)
  | succ e ih =>
    cases d' with
    | zero => exact absurd hd' (Nat.not_le.mpr k.levels_pos)
    | succ e' =>
      refine materialize_alike hR (fun hk n => ?_) name
      exact ih (Kind.records_levels_le hk hd) (Kind.records_levels_le hk hd') n

theorem outcome_select_unconnected {m : Manager b} (h : m.link.handle = none) (sql : String) :
    outcome (select sql) m = .error (.query sql .notOpen) := by
  have hc : m.link.isConnected = false := by rw [Link.isConnected, h]
  rw [select, outcome_onLink, Link.select, outcome, Link.use_eq_error hc]

theorem recordsPlan_unconnected {look : (k : Kind) → String → Step b k.Data} {m : Manager b}
    (h : m.link.handle = none) (c : Collection Record) :
    outcome (carryOut look Converter.recordsPlan) m ≠ .ok c := by
  intro hok
  rw [outcome, carryOut_recordsPlan] at hok
  cases hn : m.conditionsTable with
  | none => simp [hn] at hok
  | some name =>
    cases ht : m.tables.find? name with
    | none => simp [hn, ht] at hok
    | some t =>
      simp only [hn, ht] at hok
      have hread : outcome (readRecords t) m = .ok c := hok
      obtain ⟨result, hs, -⟩ := outcome_bind_eq_ok hread
      rw [outcome_select_unconnected h] at hs
      cases hs

theorem selectedPlan_unconnected {look : (k : Kind) → String → Step b k.Data} {m : Manager b}
    (hlook : ∀ name all, outcome (look .records name) m ≠ .ok all) (c : CollectionType)
    (name : String) (rows : Collection c.row.Row) :
    outcome (carryOut look (Converter.selectedPlan c name)) m ≠ .ok rows := by
  intro hok
  rw [outcome, carryOut_selectedPlan, carryOut_findRecords] at hok
  cases hn : m.conditionsTable with
  | none => simp [hn] at hok
  | some table =>
    cases hl : look .records table m with
    | error e t => simp [hn, hl] at hok
    | ok all t => exact hlook table all (by rw [outcome, hl])

theorem materialize_ne_ok {look : (k : Kind) → String → Step b k.Data} {m : Manager b}
    (hm : m.Shipped) {k : Kind} {plan : String → Plan k.Data}
    (hk : Converter.shipped k = some (.honest k plan)) {name : String}
    (hplan : ∀ data, outcome (carryOut look (plan name)) m ≠ .ok data) (data : k.Data) :
    outcome (materialize look k name) m ≠ .ok data := by
  intro hok
  rw [materialize] at hok
  obtain ⟨m', hg, hok⟩ := outcome_bind_eq_ok hok
  obtain rfl : m = m' := Except.ok.inj hg
  cases hc : m.converters.find? k with
  | none => simp [hc, outcome] at hok
  | some c =>
    obtain rfl : Converter.honest k plan = c := Option.some.inj (hk.symm.trans (hm k c hc))
    simp only [hc] at hok
    obtain ⟨payload, hp, -⟩ := outcome_bind_eq_ok hok
    rw [carryOut_honest] at hp
    obtain ⟨data', hd, -⟩ := outcome_bind_eq_ok hp
    exact hplan data' hd

theorem lookupAnew_records_unconnected {m : Manager b} (hm : m.Shipped)
    (h : m.link.handle = none) (d : Nat) (name : String) (c : Collection Record) :
    outcome (lookupAnew d .records name) m ≠ .ok c := by
  cases d with
  | zero => simp [lookupAnew, outcome]
  | succ d => exact materialize_ne_ok (k := .records) hm rfl (recordsPlan_unconnected h) c

theorem lookupAnew_rows_unconnected {m : Manager b} (hm : m.Shipped)
    (h : m.link.handle = none) (d : Nat) {c : CollectionType} (hc : c ≠ .record) (name : String)
    (rows : Collection c.row.Row) : outcome (lookupAnew d (.collection c) name) m ≠ .ok rows := by
  cases d with
  | zero => simp [lookupAnew, outcome]
  | succ d =>
    have hrecords := lookupAnew_records_unconnected hm h d
    exact materialize_ne_ok (k := .collection c) hm (Converter.shipped_collection hc)
      (selectedPlan_unconnected hrecords c name) rows

theorem lookupAnew_detector_relinked {m : Manager b} (hm : m.Shipped) (d : Nat) (name : String)
    (l : Link b) :
    outcome (lookupAnew d .detector name) { m with link := l } =
      outcome (lookupAnew d .detector name) m := by
  cases d with
  | zero => rfl
  | succ d =>
    simp only [lookupAnew, materialize, outcome, bind_apply, get_apply]
    cases hc : m.converters.find? .detector with
    | none => rfl
    | some c =>
      obtain rfl : Converter.detector = c := Option.some.inj (hm .detector c hc)
      simp only [Converter.detector, carryOut_honest, bind_apply, carryOut_detectorPlan]
      cases m.detector with
      | none => rfl
      | some detector =>
        dsimp only
        cases m.reader.openText name with
        | error e => rfl
        | ok xml => simp [Payload.as?_mk]

theorem getAnew_relinked {m : Manager b} (hm : m.Shipped) (h : m.link.handle = none) {k : Kind}
    {name : String} {data : k.Data} (hok : outcome (getAnew k name) m = .ok data) (l : Link b) :
    outcome (getAnew k name) { m with link := l } = .ok data := by
  cases k with
  | collection c =>
    by_cases hc : c = .record
    · subst hc
      exact absurd hok (lookupAnew_records_unconnected hm h _ name data)
    · exact absurd hok (lookupAnew_rows_unconnected hm h _ hc name data)
  | detector =>
    rw [getAnew, lookupAnew_detector_relinked hm]
    exact hok
  | text =>
    cases hc : m.converters.find? .text with
    | none =>
      change outcome (materialize (lookupAnew 255) .text name) m = .ok data at hok
      simp [materialize, outcome, hc] at hok
    | some c => cases hm .text c hc

end Manager
end RunConditions
