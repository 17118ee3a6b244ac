import RunConditions.Database.Script
import RunConditions.Proofs.Anew
import RunConditions.Proofs.Cache

/-!
# The cache cannot be noticed

A run on a manager and the same run on a manager that makes its data anew each
time go side by side. They differ in what is cached and in what the database
has been asked. What is cached is at any time what the converter would make
now, also after operations that failed and after a new configuration.
-/

set_option autoImplicit false

namespace RunConditions

/-- A database side that answers by what it is: questions make no difference to
later answers and to later connections, and a connection stays open. States
that questions alone set apart are the same. -/
structure Backend.Steady (b : Backend) (same : b.World → b.World → Prop) : Prop where
  equivalence : Equivalence same
  connect : ∀ p w w', same w w' →
    (b.connect p w).1 = (b.connect p w').1 ∧ same (b.connect p w).2 (b.connect p w').2
  opens : ∀ p w h, (b.connect p w).1 = .ok h → b.isClosed h (b.connect p w).2 = false
  answers : ∀ h sql w w', same w w' → (b.select h sql w).1 = (b.select h sql w').1
  keeps : ∀ h sql w, same w (b.select h sql w).2
  stays : ∀ h w w', same w w' → b.isClosed h w = b.isClosed h w'

/-- Operations that change no data of the database, end no connection and put
no other reader in place. -/
def Operation.keepsSources : Operation → Bool
  | update _ | addRecord _ | disconnect _ | forceDisconnect | setReader _ => false
  | _ => true

namespace Manager

variable {b : Backend} {same : b.World → b.World → Prop}

structure SameSource (same : b.World → b.World → Prop) (m m' : Manager b) : Prop
    extends SameContext m m' where
  handle : m.link.handle = m'.link.handle
  world : same m.link.world m'.link.world

namespace SameSource

variable {m m' : Manager b}

theorem isConnected (hb : b.Steady same) (h : SameSource same m m') :
    m.link.isConnected = m'.link.isConnected := by
  simp only [Link.isConnected, ← h.handle]
  cases m.link.handle with
  | none => rfl
  | some handle =>
    dsimp only
    rw [hb.stays handle _ _ h.world]

theorem outcome_select (hb : b.Steady same) (h : SameSource same m m') (sql : String) :
    outcome (select sql) m = outcome (select sql) m' := by
  rw [select, outcome_onLink, outcome_onLink, Link.select]
  cases hc : m.link.isConnected with
  | false =>
    have hc' : m'.link.isConnected = false := h.isConnected hb ▸ hc
    rw [outcome, outcome, Link.use_eq_error hc, Link.use_eq_error hc']
  | true =>
    obtain ⟨c, hh, ho⟩ := Link.isConnected_eq_true.mp hc
    have hh' : m'.link.handle = some c := h.handle ▸ hh
    have ho' : b.isClosed c m'.link.world = false := hb.stays c _ _ h.world ▸ ho
    rw [outcome, outcome, Link.use_eq_act hh ho, Link.use_eq_act hh' ho', ← outcome, ← outcome,
      Link.outcome_act, Link.outcome_act]
    exact hb.answers c sql _ _ h.world

end SameSource

theorem final_select (hb : b.Steady same) (sql : String) (m : Manager b) :
    ∃ w, same m.link.world w ∧ final (select sql) m = m.moved w := by
  rw [select, final_onLink]
  cases hc : m.link.isConnected with
  | false =>
    refine ⟨m.link.world, hb.equivalence.refl _, ?_⟩
    rw [Link.select, final, Link.use_eq_error hc]
    rfl
  | true =>
    obtain ⟨h, hh, ho⟩ := Link.isConnected_eq_true.mp hc
    refine ⟨_, hb.keeps h sql m.link.world, ?_⟩
    rw [Link.select, final, Link.use_eq_act hh ho, ← final, Link.final_act]
    rfl

theorem select_alike (hb : b.Steady same) {R : Manager b → Manager b → Prop}
    (hsource : ∀ m m', R m m' → SameSource same m m')
    (hmoved : ∀ m m' w w', R m m' → same m.link.world w → same m'.link.world w' →
      R (m.moved w) (m'.moved w')) (sql : String) :
    Alike R (select sql) (select sql) := by
  intro m m' hr
  obtain ⟨w, hw, hf⟩ := final_select hb sql m
  obtain ⟨w', hw', hf'⟩ := final_select hb sql m'
  refine ⟨(hsource m m' hr).outcome_select hb sql, ?_⟩
  rw [hf, hf']
  exact hmoved m m' w w' hr hw hw'

theorem sameSource_transparent (hb : b.Steady same) :
    Transparent fun m m' : Manager b => SameSource same m m' ∧ m.Shipped where
  context _ _ h := h.1.toSameContext
  shipped _ _ h := h.2
  select sql := by
    refine select_alike hb (fun _ _ h => h.1) (fun m m' w w' h hw hw' => ⟨?_, h.2⟩) sql
    have hworld : same w w' :=
      hb.equivalence.trans (hb.equivalence.symm hw) (hb.equivalence.trans h.1.world hw')
    exact { h.1 with world := hworld }
  cached _ _ _ _ _ h := ⟨{ h.1 with }, h.2⟩

theorem SameSource.getAnew (hb : b.Steady same) {m m' : Manager b} (h : SameSource same m m')
    (hm : m.Shipped) (k : Kind) (name : String) :
    outcome (getAnew k name) m = outcome (getAnew k name) m' :=
  (lookupAnew_alike (sameSource_transparent hb) k.levels_le k.levels_le name m m' ⟨h, hm⟩).1

/-- The second manager is the first but for what is cached and what has been
asked. -/
def Twin (same : b.World → b.World → Prop) (m m' : Manager b) : Prop :=
  ∃ w c, same m.link.world w ∧ m' = { m.moved w with cache := c }

namespace Twin

variable {m m' m'' : Manager b}

theorem refl (hb : b.Steady same) (m : Manager b) : Twin same m m :=
  ⟨m.link.world, m.cache, hb.equivalence.refl _, rfl⟩

theorem symm (hb : b.Steady same) (h : Twin same m m') : Twin same m' m := by
  obtain ⟨w, c, hw, rfl⟩ := h
  exact ⟨m.link.world, m.cache, hb.equivalence.symm hw, rfl⟩

theorem trans (hb : b.Steady same) (h : Twin same m m') (h' : Twin same m' m'') :
    Twin same m m'' := by
  obtain ⟨w, c, hw, rfl⟩ := h
  obtain ⟨w', c', hw', rfl⟩ := h'
  exact ⟨w', c', hb.equivalence.trans hw hw', rfl⟩

theorem source (h : Twin same m m') : SameSource same m m' := by
  obtain ⟨w, c, hw, rfl⟩ := h
  exact ⟨⟨rfl, rfl, rfl, rfl, rfl, rfl⟩, rfl, hw⟩

theorem moved_right (hb : b.Steady same) (h : Twin same m m') {w : b.World}
    (hw : same m'.link.world w) : Twin same m (m'.moved w) := by
  obtain ⟨v, c, hv, rfl⟩ := h
  exact ⟨w, c, hb.equivalence.trans hv hw, rfl⟩

theorem cached_right (h : Twin same m m') (k : Kind) (name : String) (p : Payload) :
    Twin same m (m'.cached k name p) := by
  obtain ⟨w, c, hw, rfl⟩ := h
  exact ⟨w, _, hw, rfl⟩

end Twin

theorem twins_transparent (hb : b.Steady same) {m₀ : Manager b} (hm : m₀.Shipped) :
    Transparent fun m m' : Manager b => Twin same m₀ m ∧ Twin same m₀ m' where
  context _ _ h := ((h.1.symm hb).trans hb h.2).source.toSameContext
  shipped _ _ h := by
    rw [Shipped, ← h.1.source.converters]
    exact hm
  select sql := by
    refine select_alike hb (fun _ _ h => ((h.1.symm hb).trans hb h.2).source) ?_ sql
    exact fun _ _ _ _ h hw hw' => ⟨h.1.moved_right hb hw, h.2.moved_right hb hw'⟩
  cached _ _ k name p h := ⟨h.1.cached_right k name p, h.2.cached_right k name p⟩

theorem Twin.lookupAnew (hb : b.Steady same) {m : Manager b} (hm : m.Shipped) {k : Kind} {d : Nat}
    (hd : k.levels ≤ d) (name : String) : Twin same m (final (lookupAnew d k name) m) :=
  (lookupAnew_alike (twins_transparent hb hm) hd hd name m m ⟨Twin.refl hb m, Twin.refl hb m⟩).2.2

/-- What is cached is what would be made now. -/
def Fresh (m : Manager b) : Prop :=
  ∀ k name data, m.cache.data? k name = some data → outcome (getAnew k name) m = .ok data

theorem Fresh.of_source (hb : b.Steady same) {m m' : Manager b} (hm : m.Shipped) (h : m.Fresh)
    (hs : SameSource same m m') (hc : m'.cache = m.cache) : m'.Fresh := by
  intro k name data hd
  rw [hc] at hd
  rw [← hs.getAnew hb hm k name]
  exact h k name data hd

theorem fresh_empty {m : Manager b} (h : m.cache = {}) : m.Fresh := by
  intro k name data hd
  rw [h] at hd
  cases hd

theorem Fresh.cached (hb : b.Steady same) {m : Manager b} (hm : m.Shipped) (h : m.Fresh) {k : Kind}
    {name : String} {payload : Payload} {data : k.Data} (hp : payload.as? k = some data)
    (hnow : outcome (getAnew k name) m = .ok data) : (m.cached k name payload).Fresh := by
  have hs : SameSource same m (m.cached k name payload) :=
    ((Twin.refl hb m).cached_right k name payload).source
  intro k' name' data' hd
  rw [← hs.getAnew hb hm k' name']
  rw [Manager.cached, Cache.data?_insert] at hd
  split at hd
  · obtain ⟨rfl, rfl⟩ := CacheEntry.isFor_iff.mp ‹_›
    obtain rfl := Option.some.inj (hp.symm.trans hd)
    exact hnow
  · exact h k' name' data' hd

/-- A manager with a fresh cache beside its twin that makes everything anew. -/
structure SideBySide (same : b.World → b.World → Prop) (m m' : Manager b) : Prop where
  twin : Twin same m m'
  isOpen : ∀ h, m.link.handle = some h → b.isClosed h m.link.world = false
  types : m.types = .standard
  shipped : m.Shipped
  fresh : m.Fresh

theorem SideBySide.moved (hb : b.Steady same) {m m' : Manager b} (h : SideBySide same m m')
    {w w' : b.World} (hw : same m.link.world w) (hw' : same m'.link.world w') :
    SideBySide same (m.moved w) (m'.moved w') where
  twin := ((((Twin.refl hb m).moved_right hb hw).symm hb).trans hb h.twin).moved_right hb hw'
  isOpen c hc := hb.stays c _ _ hw ▸ h.isOpen c hc
  types := h.types
  shipped := h.shipped
  fresh := h.fresh.of_source hb h.shipped ((Twin.refl hb m).moved_right hb hw).source rfl

theorem SideBySide.shipped_right {m m' : Manager b} (h : SideBySide same m m') : m'.Shipped := by
  rw [Shipped, ← h.twin.source.converters]
  exact h.shipped

theorem getAnew_eq_lookupAnew (hb : b.Steady same) {m m' : Manager b} (hm : m.Shipped)
    (h : SameSource same m m') {k : Kind} {d : Nat} (hd : k.levels ≤ d) (name : String) :
    outcome (getAnew k name) m = outcome (lookupAnew d k name) m' :=
  (lookupAnew_alike (sameSource_transparent hb) k.levels_le hd name m m' ⟨h, hm⟩).1

/-- Data that are made beside the same data made anew may be cached: the twin
shows that they would be made now. -/
theorem materialize_alike_anew (hb : b.Steady same) {k : Kind} {name : String} {d : Nat}
    (hd : k.levels ≤ d + 1) {look : (k : Kind) → String → Step b k.Data}
    (hplan : ∀ c, Converter.shipped k = some c →
      Alike (SideBySide same) (carryOut look (c.plan name))
        (carryOut (lookupAnew d) (c.plan name))) :
    Alike (SideBySide same) (materialize look k name) (lookupAnew (d + 1) k name) := by
  intro m m' hs
  have hanew := Twin.lookupAnew hb hs.shipped_right hd name
  have hconverters := hs.twin.source.converters
  cases hc : m.converters.find? k with
  | none =>
    simp only [outcome, final, lookupAnew, materialize_apply, ← hconverters, hc]
    exact ⟨trivial, hs⟩
  | some c =>
    rcases (hplan c (hs.shipped k c hc)).cases hs with
      ⟨payload, t, t', hl, hr, ht⟩ | ⟨e, t, t', hl, hr, ht⟩
    · cases hp : payload.as? k with
      | none =>
        simp only [outcome, final, lookupAnew, materialize_apply, ← hconverters, hc, hl, hr, hp]
        exact ⟨trivial, ht⟩
      | some data =>
        have hmade : outcome (lookupAnew (d + 1) k name) m' = .ok data := by
          simp only [outcome, lookupAnew, materialize_apply, ← hconverters, hc, hr, hp]
        have htwin : Twin same t (t'.cached k name payload) := ht.twin.cached_right k name payload
        simp only [outcome, final, lookupAnew, materialize_apply, ← hconverters, hc, hl, hr, hp]
          at hanew ⊢
        have hnow : outcome (getAnew k name) t = .ok data := by
          rw [← hmade]
          exact getAnew_eq_lookupAnew hb ht.shipped (htwin.trans hb (hanew.symm hb)).source hd name
        refine ⟨trivial, ?_, ht.isOpen, ht.types, ht.shipped, ht.fresh.cached hb ht.shipped hp hnow⟩
        exact (((Twin.refl hb t).cached_right k name payload).symm hb).trans hb htwin
    · simp only [outcome, final, lookupAnew, materialize_apply, ← hconverters, hc, hl, hr]
      exact ⟨trivial, ht⟩

theorem lookup_alike (hb : b.Steady same) {k : Kind} {d d' : Nat} (hd : k.levels ≤ d)
    (hd' : k.levels ≤ d') (name : String) :
    Alike (SideBySide same) (lookup d k name : Step b k.Data) (lookupAnew d' k name) := by
  induction d generalizing k d' name with
  | zero => exact absurd hd (Nat.not_le.mpr k.levels_pos)
  | succ e ih =>
    cases d' with
    | zero => exact absurd hd' (Nat.not_le.mpr k.levels_pos)
    | succ e' =>
      intro m m' hs
      cases hc : m.cache.data? k name with
      | some data =>
        -- What is cached is what would be made now, and making it anew moves the database alone.
        have hanew := Twin.lookupAnew hb hs.shipped_right hd' name
        have hnow := hs.fresh k name data hc
        rw [getAnew_eq_lookupAnew hb hs.shipped hs.twin.source hd'] at hnow
        simp only [outcome, final, lookup_apply_of_cached hc] at hnow hanew ⊢
        exact ⟨hnow.symm, { hs with twin := hs.twin.trans hb hanew }⟩
      | none =>
        have hmake : Alike (SideBySide same) (materialize (lookup e) k name)
            (lookupAnew (e' + 1) k name) := by
          refine materialize_alike_anew hb hd' fun c hship => ?_
          refine shipped_alike (fun _ _ h => h.twin.source.toSameContext) ?_ hship ?_ name
          · exact select_alike hb (fun _ _ h => h.twin.source) fun _ _ _ _ h => h.moved hb
          · intro hk n
            exact ih (by show 1 ≤ e; omega) (by show 1 ≤ e'; omega) n
        rw [outcome, final, lookup_apply_of_not_cached hc]
        exact hmake m m' hs

section Operations

variable {m m' : Manager b}

theorem SideBySide.hasParameters (h : SideBySide same m m') :
    m.hasParameters = m'.hasParameters := by
  obtain ⟨w, c, -, rfl⟩ := h.twin
  rfl

theorem SideBySide.isConnected (hb : b.Steady same) (h : SideBySide same m m') :
    m.isConnected = m'.isConnected :=
  h.twin.source.isConnected hb

theorem SideBySide.setUp {config : Config} {s : Setup} (h : SideBySide same m m')
    (hs : setup m.types config = .ok s) : SideBySide same (m.setUp s) (m'.setUp s) where
  twin := by
    obtain ⟨w, c, hw, rfl⟩ := h.twin
    exact ⟨w, {}, hw, rfl⟩
  isOpen := h.isOpen
  types := h.types
  shipped := setUp_shipped (h.types ▸ hs) m
  fresh := fresh_empty rfl

theorem SideBySide.switched (detector : String) (run : Int) (h : SideBySide same m m') :
    SideBySide same (m.switched detector run) (m'.switched detector run) where
  twin := by
    obtain ⟨w, c, hw, rfl⟩ := h.twin
    exact ⟨w, {}, hw, rfl⟩
  isOpen := h.isOpen
  types := h.types
  shipped := h.shipped
  fresh := fresh_empty rfl

theorem SideBySide.share (hb : b.Steady same) (h : SideBySide same m m') :
    SideBySide same { m with shared := true } { m' with shared := true } where
  twin := by
    obtain ⟨w, c, hw, rfl⟩ := h.twin
    exact ⟨w, c, hw, rfl⟩
  isOpen := h.isOpen
  types := h.types
  shipped := h.shipped
  fresh := h.fresh.of_source hb h.shipped { (Twin.refl hb m).source with } rfl

theorem setParameters_alike (hb : b.Steady same) (p : Parameters) :
    Alike (SideBySide same) (setParameters p) (setParameters p) := by
  refine onLink_alike fun m m' h => ⟨rfl, ?_, h.isOpen, h.types, h.shipped, ?_⟩
  · obtain ⟨w, c, hw, rfl⟩ := h.twin
    exact ⟨w, c, hw, rfl⟩
  · exact h.fresh.of_source hb h.shipped { (Twin.refl hb m).source with } rfl

theorem SideBySide.handle_eq_none (h : SideBySide same m m') (hc : m.link.isConnected = false) :
    m.link.handle = none := by
  cases hh : m.link.handle with
  | none => rfl
  | some c => simp [Link.isConnected, hh, h.isOpen c hh] at hc

/-- What a manager without a connection has cached did not come from a database. -/
theorem SideBySide.relinked (h : SideBySide same m m') (hnone : m.link.handle = none)
    {l l' : Link b} (hp : l.parameters = l'.parameters) (hh : l.handle = l'.handle)
    (hw : same l.world l'.world) (hopen : ∀ c, l.handle = some c → b.isClosed c l.world = false) :
    SideBySide same { m with link := l } { m' with link := l' } where
  twin := by
    obtain ⟨w, c, -, rfl⟩ := h.twin
    have hl : l' = l.moved l'.world := by rw [Link.moved, hp, hh]
    exact ⟨l'.world, c, hw, congrArg (fun l' => { m with link := l', cache := c }) hl⟩
  isOpen := hopen
  types := h.types
  shipped := h.shipped
  fresh k name data hd := getAnew_relinked h.shipped hnone (h.fresh k name data hd) l

theorem connect_alike (hb : b.Steady same) :
    Alike (SideBySide same) (connect : Step b Bool) connect := by
  refine onLink_alike fun m m' h => ?_
  have hconn : m.link.isConnected = m'.link.isConnected := h.isConnected hb
  have hparameters : m.link.parameters = m'.link.parameters := by
    obtain ⟨w, c, -, rfl⟩ := h.twin
    rfl
  cases hc : m.link.isConnected with
  | true =>
    rw [outcome, outcome, final, final, Link.connect_eq_ok hc, Link.connect_eq_ok (hconn ▸ hc)]
    exact ⟨rfl, h⟩
  | false =>
    have hc' : m'.link.isConnected = false := hconn ▸ hc
    have hnone : m.link.handle = none := h.handle_eq_none hc
    cases hp : m.link.parameters with
    | none =>
      rw [outcome, outcome, final, final, Link.connect_of_no_parameters hc hp,
        Link.connect_of_no_parameters hc' (hparameters ▸ hp)]
      exact ⟨rfl, h⟩
    | some p =>
      obtain ⟨hsame, hworld⟩ := hb.connect p _ _ h.twin.source.world
      rw [outcome, outcome, final, final, Link.connect_of_parameters hc hp,
        Link.connect_of_parameters hc' (hparameters ▸ hp), ← hsame]
      cases hr : (b.connect p m.link.world).1 with
      | error e =>
        refine ⟨rfl, h.relinked hnone hparameters h.twin.source.handle hworld fun c hopen => ?_⟩
        cases hnone.symm.trans hopen
      | ok c =>
        refine ⟨rfl, h.relinked hnone hparameters rfl hworld fun c' hopen => ?_⟩
        obtain rfl := Option.some.inj hopen
        exact hb.opens p m.link.world c hr

theorem runBy_alike (hb : b.Steady same) {op : Operation} (h : op.keepsSources = true) :
    Alike (SideBySide same) (op.runBy (getConditions (b := b))) (op.runBy getAnew) := by
  have hselect : ∀ sql, Alike (SideBySide same) (select (b := b) sql) (select sql) :=
    select_alike hb (fun _ _ h => h.twin.source) fun _ _ _ _ h => h.moved hb
  have htables : ∀ m m' : Manager b, SideBySide same m m' → m.tables = m'.tables :=
    fun _ _ h => h.twin.source.tables
  have htypes : ∀ m m' : Manager b, SideBySide same m m' → m.types = m'.types := by
    intro m m' h
    obtain ⟨w, c, -, rfl⟩ := h.twin
    rfl
  have hconfigure : ∀ config, Alike (SideBySide same) (configure (b := b) config)
      (configure config) := fun config => configure_alike config htypes fun _ _ _ h hs => h.setUp hs
  have hlook : ∀ k name, Alike (SideBySide same) (getConditions (b := b) k name)
      (getAnew k name) := fun k name => lookup_alike hb k.levels_le k.levels_le name
  cases op with
  | configure config => exact hconfigure config
  | configureText text => exact configureText_alike text hconfigure
  | configureFile files path => exact configureFile_alike files path hconfigure
  | configureResource name => exact configureResource_alike name hconfigure
  | setDetector detector run =>
    exact setDetector_alike detector run (fun _ _ h => h.hasParameters)
      (fun _ _ h => h.isConnected hb) (connect_alike hb) fun _ _ h => h.switched detector run
  | getConditions kind name => exact hlook kind name
  | getDetector => exact hlook .detector detectorDescription
  | findRecords name =>
    exact findRecords_alike (fun _ _ h => h.twin.source.toSameContext) (hlook .records) name
  | nextCollectionId table => exact nextCollectionId_alike table htables hselect
  | collectionExists table collection =>
    exact collectionExists_alike table collection htables hselect
  | connect => exact connect_alike hb
  | setParameters p => exact setParameters_alike hb p
  | setProperties files path =>
    exact setProperties_alike files path (setParameters_alike hb)
  | setResource name => exact setResource_alike name (setParameters_alike hb)
  | select sql => exact hselect sql
  | openText name => exact openText_alike name fun _ _ h => h.twin.source.reader
  | share => exact share_alike fun _ _ h => h.share hb
  | addRecord _ | disconnect _ | forceDisconnect | update _ | setReader _ => cases h

end Operations

theorem new_sideBySide (hb : b.Steady same) (reader : Reader) (world : b.World) :
    SideBySide same (Manager.new .standard reader world) (Manager.new .standard reader world) where
  twin := Twin.refl hb _
  isOpen _ h := by cases h
  types := rfl
  shipped k c h := by
    obtain ⟨hmem, rfl⟩ := Converters.mem_of_find? h
    rcases Converters.mem_register hmem with rfl | hmem
    · rfl
    · cases hmem
  fresh := fresh_empty rfl

/-- Every operation of a run answers what it would answer if all data were made
anew each time, with the same data and the same errors. -/
theorem cache_transparent (hb : b.Steady same) (reader : Reader) (world : b.World)
    (ops : List Operation) (h : ∀ op ∈ ops, op.keepsSources = true) :
    outcomes getConditions ops (Manager.new .standard reader world) =
      outcomes getAnew ops (Manager.new .standard reader world) :=
  outcomes_alike ops (fun op hop => runBy_alike hb (h op hop)) _ _
    (new_sideBySide hb reader world)

end Manager

def Script.sameScript (s s' : Script.State) : Prop :=
  { s with log := [] } = { s' with log := [] }

theorem Script.steady : Script.backend.Steady Script.sameScript where
  equivalence := ⟨fun _ => rfl, fun h => h.symm, fun h h' => h.trans h'⟩
  connect _ s s' h := by
    simp only [sameScript, State.mk.injEq] at h
    simp only [backend, State.connect, sameScript]
    obtain ⟨hs, hu, hf, hc, hcf, hcl, ho, -⟩ := h
    rw [hc]
    cases s'.connectError <;> simp [hs, hu, hf, hcf, hcl, ho]
  opens _ s _ h := by
    simp only [backend, State.connect] at h ⊢
    cases hc : s.connectError with
    | none => rfl
    | some reason => simp [hc] at h
  answers _ sql s s' h := by
    simp only [sameScript, State.mk.injEq] at h
    simp only [backend, State.select, h.1, h.2.2.1]
  keeps _ _ _ := rfl
  stays _ s s' h := by
    simp only [sameScript, State.mk.injEq] at h
    exact h.2.2.2.2.2.1

def Script.gains : Script.State where
  selects :=
    [("SELECT * FROM conditions ORDER BY id",
      { columns := "id" :: Record.columns
        rows := [[some (.integer 2), some (.integer 0), some (.integer 1000),
          some (.text "ecal_gains"), some (.text "ecal_gains"), some (.integer 7), none, none,
          none]] }),
     ("SELECT * FROM ecal_gains WHERE collection_id = 7",
      { columns := ["id", "ecal_channel_id", "gain"]
        rows := [[some (.integer 1), some (.integer 3), some (.float 0.2)]] })]

def Script.lookups : List Operation :=
  [.setParameters ⟨"t1", "x", "hps_conditions_test", "localhost", 5432, "mock"⟩, .connect,
   .configureResource Embedded.configurationName, .setDetector "HPS-TestRun-v5" 10,
   .getConditions (.collection (.channel .gain)) "ecal_gains",
   .getConditions (.collection (.channel .gain)) "ecal_gains", .getDetector,
   .configureText "<tables/>", .findRecords "ecal_gains", .setDetector "HPS-TestRun-v5" 5000,
   .getConditions (.collection (.channel .gain)) "ecal_gains", .nextCollectionId "ecal_gains"]

theorem Script.lookups_transparent :
    (∀ op ∈ Script.lookups, op.keepsSources = true) ∧
      Manager.outcomes Manager.getConditions Script.lookups
          (Manager.new (b := backend) .standard (.base Files.none []) Script.gains) =
        Manager.outcomes Manager.getAnew Script.lookups
          (Manager.new (b := backend) .standard (.base Files.none []) Script.gains) := by
  have h : ∀ op ∈ Script.lookups, op.keepsSources = true := by
    simp [Script.lookups, Operation.keepsSources]
  exact ⟨h, Manager.cache_transparent Script.steady _ _ _ h⟩

end RunConditions
