import RunConditions.Proofs.Atomicity
import RunConditions.Proofs.Lookups
import RunConditions.Proofs.Recorded
import RunConditions.Proofs.Selection

/-!
# One materialization in an epoch

Until the configuration, the detector or the records change, a converter makes
the data for a kind and name successfully at most once, and from then on they
come out of the cache. After such a change everything has to be made anew.
-/

set_option autoImplicit false

namespace RunConditions

def Cache.payload? (c : Cache) (kind : Kind) (name : String) : Option Payload :=
  (c.data? kind name).map (Payload.mk kind)

theorem Cache.payload?_eq_none_iff {c : Cache} {kind : Kind} {name : String} :
    c.payload? kind name = none ↔ c.data? kind name = none :=
  Option.map_eq_none_iff

theorem Cache.payload?_insert (c : Cache) {e : CacheEntry} (he : e.payload.kind = e.kind)
    (kind : Kind) (name : String) :
    (c.insert e).payload? kind name =
      if e.isFor kind name then some e.payload else c.payload? kind name := by
  rw [payload?, data?_insert]
  cases hfor : e.isFor kind name with
  | true =>
    obtain ⟨rfl, rfl⟩ := CacheEntry.isFor_iff.mp hfor
    obtain ⟨k, n, ⟨k', data⟩, detector, run⟩ := e
    obtain rfl : k' = k := he
    simp [Payload.as?_mk]
  | false => rfl

theorem Cache.payload?_of_without {c : Cache} {kind : Kind} {name : String} {payload : Payload}
    (h : (c.without .records).payload? kind name = some payload) :
    c.payload? kind name = some payload := by
  by_cases hk : kind = .records
  · subst hk
    rw [payload?, data?_without_self] at h
    cases h
  · rwa [payload?, data?_without_of_ne hk] at h

namespace Operation

def switches : Operation → Bool
  | configure _ | configureText _ | configureFile _ _ | configureResource _ | setDetector _ _ =>
    true
  | _ => false

/-- Operations that begin an epoch when they succeed. -/
def renews : Operation → Bool
  | addRecord _ => true
  | op => op.switches

end Operation

namespace Manager

variable {b : Backend}

namespace Lookup

def For (e : Lookup b) (kind : Kind) (name : String) : Prop :=
  e.kind = kind ∧ e.name = name

/-- The lookup has run nothing, has brought this and has left the manager as it was. -/
structure FromCache (e : Lookup b) (payload : Payload) : Prop where
  ran : e.ran = false
  answer : e.answer = .ok payload
  after : e.after = e.before

def Repeats (e e' : Lookup b) : Prop :=
  ∀ payload, e'.For e.kind e.name → e.answer = .ok payload → e'.FromCache payload

def FirstIn (e : Lookup b) (es : List (Lookup b)) : Prop :=
  ∃ earlier later, es = earlier ++ e :: later ∧ ∀ e' ∈ earlier, ¬ e'.For e.kind e.name

theorem FirstIn.of_append {e : Lookup b} {es fs : List (Lookup b)} (h : e.FirstIn (es ++ fs)) :
    e.FirstIn es ∨ e.FirstIn fs ∧ ∀ e' ∈ es, ¬ e'.For e.kind e.name := by
  obtain ⟨earlier, later, hsplit, hnone⟩ := h
  rcases List.append_eq_append_iff.mp hsplit with
    ⟨between, rfl, hfs⟩ | ⟨between, hes, hlater⟩
  · right
    rw [List.forall_mem_append] at hnone
    exact ⟨⟨between, later, hfs, hnone.2⟩, hnone.1⟩
  · cases between with
    | nil =>
      rw [List.append_nil] at hes
      subst hes
      exact Or.inr ⟨⟨[], later, hlater.symm, by simp⟩, hnone⟩
    | cons e' between =>
      rw [List.cons_append, List.cons.injEq] at hlater
      obtain ⟨rfl, -⟩ := hlater
      exact Or.inl ⟨earlier, between, hes, hnone⟩

theorem FirstIn.mem {e : Lookup b} {es : List (Lookup b)} (h : e.FirstIn es) : e ∈ es := by
  obtain ⟨earlier, later, rfl, -⟩ := h
  simp

end Lookup

/-- No move of the run begins a new epoch. Neither another reader nor closing the
connection does. -/
def Epoch : List (Move b) → Manager b → Prop
  | [], _ => True
  | .drift world :: moves, m => Epoch moves (m.moved world)
  | .call op :: moves, m =>
    ¬ (op.renews = true ∧ ∃ a, outcome op.run m = .ok a) ∧ Epoch moves (final op.run m)

/-- What lookups have to do with the cache before and after them. -/
structure Fills (m : Manager b) (es : List (Lookup b)) (m' : Manager b) : Prop where
  gains : ∀ kind name payload, m'.cache.payload? kind name = some payload →
    m.cache.payload? kind name = some payload ∨ ∃ e ∈ es, e.For kind name
  first : ∀ e : Lookup b, e.FirstIn es → m.cache.payload? e.kind e.name = none →
    e.ran = (e.before.converters.find? e.kind).isSome

/-- Lookups between which nothing is dropped from the cache. -/
structure Settles (m : Manager b) (es : List (Lookup b)) (m' : Manager b) : Prop
    extends Fills m es m' where
  once : es.Pairwise Lookup.Repeats
  before : ∀ e ∈ es, ∀ payload, m.cache.payload? e.kind e.name = some payload →
    e.FromCache payload
  after : ∀ e ∈ es, ∀ payload, e.answer = .ok payload →
    m'.cache.payload? e.kind e.name = some payload
  grows : ∀ kind name payload, m.cache.payload? kind name = some payload →
    m'.cache.payload? kind name = some payload

section Rows

variable {m m₁ m' : Manager b} {es fs : List (Lookup b)}

theorem Fills.of_nothing
    (h : ∀ kind name payload, m'.cache.payload? kind name = some payload →
      m.cache.payload? kind name = some payload) : Fills m [] m' where
  gains kind name payload hp := Or.inl (h kind name payload hp)
  first e he _ := by
    obtain ⟨earlier, later, hsplit, -⟩ := he
    simp at hsplit

theorem Fills.append (h : Fills m es m₁) (h' : Fills m₁ fs m') : Fills m (es ++ fs) m' where
  gains kind name payload hp := by
    rcases h'.gains kind name payload hp with hp | ⟨e, he, hfor⟩
    · rcases h.gains kind name payload hp with hp | ⟨e, he, hfor⟩
      · exact Or.inl hp
      · exact Or.inr ⟨e, List.mem_append_left _ he, hfor⟩
    · exact Or.inr ⟨e, List.mem_append_right _ he, hfor⟩
  first e he hnone := by
    rcases he.of_append with he | ⟨he, hfirst⟩
    · exact h.first e he hnone
    · apply h'.first e he
      cases hp : m₁.cache.payload? e.kind e.name with
      | none => rfl
      | some payload =>
        rcases h.gains e.kind e.name payload hp with hp | ⟨e', he', hfor⟩
        · rw [hnone] at hp
          cases hp
        · exact absurd hfor (hfirst e' he')

theorem Settles.of_same (h : m'.cache = m.cache) : Settles m [] m' where
  toFills := .of_nothing fun kind name payload hp => by rwa [← h]
  once := .nil
  before e he := by cases he
  after e he := by cases he
  grows kind name payload hp := by rwa [h]

theorem Settles.append (h : Settles m es m₁) (h' : Settles m₁ fs m') :
    Settles m (es ++ fs) m' where
  toFills := h.toFills.append h'.toFills
  once := by
    refine List.pairwise_append.mpr ⟨h.once, h'.once, ?_⟩
    intro e he e' he' payload hfor hanswer
    have hcached := h.after e he payload hanswer
    rw [← hfor.1, ← hfor.2] at hcached
    exact h'.before e' he' payload hcached
  before e he payload hp := by
    rcases List.mem_append.mp he with he | he
    · exact h.before e he payload hp
    · exact h'.before e he payload (h.grows _ _ _ hp)
  after e he payload hanswer := by
    rcases List.mem_append.mp he with he | he
    · exact h'.grows _ _ _ (h.after e he payload hanswer)
    · exact h'.after e he payload hanswer
  grows kind name payload hp := h'.grows _ _ _ (h.grows _ _ _ hp)

theorem Settles.of_cache_eq (h : Settles m es m₁) (hc : m'.cache = m₁.cache) :
    Settles m es m' :=
  List.append_nil es ▸ h.append (.of_same hc)

theorem Settles.cached {e : Lookup b} {payload : Payload}
    (hp : m.cache.payload? e.kind e.name = some payload) (he : e.FromCache payload) :
    Settles m [e] m where
  gains kind name payload hp := Or.inl hp
  first e' he' hnone := by
    rw [List.mem_singleton.mp he'.mem, hp] at hnone
    cases hnone
  once := List.pairwise_singleton _ _
  before e' he' payload' hp' := by
    rw [List.mem_singleton.mp he'] at hp' ⊢
    rw [hp, Option.some.injEq] at hp'
    exact hp' ▸ he
  after e' he' payload' hanswer := by
    rw [List.mem_singleton.mp he', he.answer, Except.ok.injEq] at hanswer
    rw [List.mem_singleton.mp he', hp, hanswer]
  grows kind name payload hp := hp

/-- A lookup that finds nothing in the cache, and after which what it brings is there. -/
theorem Settles.brought {e : Lookup b} (hnone : m.cache.payload? e.kind e.name = none)
    (hran : e.ran = (e.before.converters.find? e.kind).isSome)
    (hsame : ∀ kind name, ¬ e.For kind name →
      m'.cache.payload? kind name = m.cache.payload? kind name)
    (hbrings : ∀ payload, e.answer = .ok payload →
      m'.cache.payload? e.kind e.name = some payload) : Settles m [e] m' where
  gains kind name payload hp := by
    by_cases hfor : e.For kind name
    · exact Or.inr ⟨e, List.mem_singleton_self e, hfor⟩
    · rw [hsame kind name hfor] at hp
      exact Or.inl hp
  first e' he' _ := by
    rwa [List.mem_singleton.mp he'.mem]
  once := List.pairwise_singleton _ _
  before e' he' payload hp := by
    rw [List.mem_singleton.mp he', hnone] at hp
    cases hp
  after e' he' payload hanswer := by
    rw [List.mem_singleton.mp he'] at hanswer ⊢
    exact hbrings payload hanswer
  grows kind name payload hp := by
    by_cases hfor : e.For kind name
    · obtain ⟨rfl, rfl⟩ := hfor
      rw [hnone] at hp
      cases hp
    · rwa [hsame kind name hfor]

end Rows

section Lookups

variable {m : Manager b} {kind : Kind} {name : String} {depth : Nat} {α : Type}

def SettlesLookup (depth : Nat) (kind : Kind) (name : String) (m : Manager b) : Prop :=
  Settles m (lookups depth kind name m) (final (lookup depth kind name) m)

def SettlesPlan (depth : Nat) (p : Plan α) (m : Manager b) : Prop :=
  Settles m (carriedOut (lookup depth) (lookups depth) p m) (final (carryOut (lookup depth) p) m)

theorem lookups_of_cached {data : kind.Data} (h : m.cache.data? kind name = some data)
    (depth : Nat) :
    lookups (depth + 1) kind name m = [lookedUp (lookup (depth + 1)) false kind name m] := by
  rw [lookups, h]

theorem lookups_of_no_converter (hnone : m.cache.data? kind name = none)
    (hc : m.converters.find? kind = none) (depth : Nat) :
    lookups (depth + 1) kind name m = [lookedUp (lookup (depth + 1)) false kind name m] := by
  rw [lookups, hnone, hc]

theorem lookups_of_honest {plan : String → Plan kind.Data}
    (hnone : m.cache.data? kind name = none)
    (hc : m.converters.find? kind = some (.honest kind plan)) (depth : Nat) :
    lookups (depth + 1) kind name m =
      carriedOut (lookup depth) (lookups depth) (plan name) m ++
        [lookedUp (lookup (depth + 1)) true kind name m] := by
  rw [lookups, hnone, hc]
  exact congrArg (· ++ _) (carriedOut_bind_alone (fun _ => alone_pure _) m)

theorem settlesLookup_of_cached {data : kind.Data} (h : m.cache.data? kind name = some data)
    (depth : Nat) : SettlesLookup (depth + 1) kind name m := by
  have hlook := lookup_apply_of_cached h (depth + 1)
  have hfinal : final (lookup (depth + 1) kind name) m = m := by rw [final, hlook]
  have hpayload : m.cache.payload? kind name = some ⟨kind, data⟩ :=
    (congrArg (Option.map _) h).trans rfl
  rw [SettlesLookup, lookups_of_cached h, hfinal]
  refine .cached hpayload ⟨rfl, ?_, hfinal⟩
  rw [lookedUp, outcome, hlook]
  rfl

theorem settlesLookup_of_no_converter (hnone : m.cache.data? kind name = none)
    (hc : m.converters.find? kind = none) (depth : Nat) :
    SettlesLookup (depth + 1) kind name m := by
  have hlook : lookup (depth + 1) kind name m = .error (.notFound (.noConverter kind)) m := by
    rw [lookup_apply_of_not_cached hnone, materialize_apply, hc]
  rw [SettlesLookup, lookups_of_no_converter hnone hc, final, hlook]
  refine .brought (Cache.payload?_eq_none_iff.mpr hnone) ?_ (fun _ _ _ => rfl) ?_
  · show false = (m.converters.find? kind).isSome
    rw [hc]
    rfl
  · intro payload hanswer
    rw [lookedUp, outcome, hlook] at hanswer
    cases hanswer

theorem settlesPlan_of_alone {p : Plan α}
    (hp : Alone (b := b) (lookup depth) (lookups depth) p)
    (hcache : (final (carryOut (lookup depth) p) m).cache = m.cache) : SettlesPlan depth p m := by
  rw [SettlesPlan, hp]
  exact .of_same hcache

theorem settlesLookup_of_honest {plan : String → Plan kind.Data}
    (hnone : m.cache.data? kind name = none)
    (hc : m.converters.find? kind = some (.honest kind plan))
    (hplan : SettlesPlan depth (plan name) m)
    (hstill : (final (carryOut (lookup depth) (plan name)) m).cache.data? kind name = none) :
    SettlesLookup (depth + 1) kind name m := by
  have hlook : lookup (depth + 1) kind name m = _ :=
    (lookup_apply_of_not_cached hnone depth).trans (materialize_apply_of_honest hc name)
  have hran : true = (m.converters.find? kind).isSome := by rw [hc]; rfl
  rw [SettlesLookup, lookups_of_honest hnone hc]
  apply hplan.append
  refine .brought (Cache.payload?_eq_none_iff.mpr hstill) hran ?_ ?_
  · intro kind' name' hfor
    rw [final, hlook]
    cases ho : outcome (carryOut (lookup depth) (plan name)) m with
    | error e => rw [apply_eq_error ho]
    | ok data =>
      rw [apply_eq_ok ho]
      refine (Cache.payload?_insert _ rfl kind' name').trans (if_neg ?_)
      exact fun h => hfor (CacheEntry.isFor_iff.mp h)
  · intro payload hanswer
    rw [lookedUp, outcome, hlook] at hanswer
    rw [final, hlook]
    cases ho : outcome (carryOut (lookup depth) (plan name)) m with
    | error e =>
      rw [apply_eq_error ho] at hanswer
      cases hanswer
    | ok data =>
      rw [apply_eq_ok ho] at hanswer ⊢
      cases hanswer
      exact (Cache.payload?_insert _ rfl _ _).trans
        (if_pos (CacheEntry.isFor_iff.mpr ⟨rfl, rfl⟩))

theorem settles_records (hm : m.Shipped) (depth : Nat) (name : String) :
    SettlesLookup (depth + 1) .records name m := by
  cases hdata : m.cache.data? .records name with
  | some all => exact settlesLookup_of_cached hdata depth
  | none =>
    rcases hm.find?_eq .records with hc | hc
    · exact settlesLookup_of_no_converter hdata hc depth
    · obtain ⟨w, hw⟩ := asks_recordsPlan (lookup depth) m
      have hcache : (final (carryOut (lookup depth) Converter.recordsPlan) m).cache = m.cache := by
        rw [hw]
        rfl
      exact settlesLookup_of_honest hdata hc (settlesPlan_of_alone alone_recordsPlan hcache)
        (by rw [hcache, hdata])

theorem settles_detector (hm : m.Shipped) (depth : Nat) (name : String) :
    SettlesLookup (depth + 1) .detector name m := by
  cases hdata : m.cache.data? .detector name with
  | some all => exact settlesLookup_of_cached hdata depth
  | none =>
    rcases hm.find?_eq .detector with hc | hc
    · exact settlesLookup_of_no_converter hdata hc depth
    · have hfinal : final (carryOut (lookup depth) (Converter.detectorPlan name)) m = m :=
        final_carryOut_detectorPlan name m
      exact settlesLookup_of_honest hdata hc
        (settlesPlan_of_alone (alone_detectorPlan name) (by rw [hfinal])) (by rw [hfinal, hdata])

theorem settles_findRecords (hm : m.Shipped) (depth : Nat) (name : String) :
    SettlesPlan (depth + 1) (Plan.findRecords name) m := by
  rw [SettlesPlan, carriedOut_findRecords, final, carryOut_findRecords]
  cases m.conditionsTable with
  | none => exact .of_same rfl
  | some table =>
    have hrecords := settles_records hm depth table
    dsimp only
    rw [SettlesLookup, final] at hrecords
    cases hlook : lookup (depth + 1) .records table m with
    | ok all m' =>
      rw [hlook] at hrecords
      exact hrecords
    | error e m' =>
      rw [hlook] at hrecords
      exact hrecords

theorem findRecords_data? (hm : m.Shipped) (depth : Nat) (name : String) (hk : kind ≠ .records)
    (name' : String) :
    (final (carryOut (lookup (depth + 1)) (Plan.findRecords name)) m).cache.data? kind name' =
      m.cache.data? kind name' := by
  rw [final, carryOut_findRecords]
  cases m.conditionsTable with
  | none => rfl
  | some table =>
    dsimp only
    rcases lookup_records_cases hm depth table with
      ⟨e, w, hl⟩ | ⟨all, hl⟩ | ⟨all, w, -, hl⟩
    · rw [hl]
      rfl
    · rw [hl]
    · rw [hl]
      refine (Cache.data?_insert _ _ _ _).trans (if_neg ?_)
      intro hfor
      exact hk (CacheEntry.isFor_iff.mp hfor).1.symm

theorem cache_selectedPlan (look : (k : Kind) → String → Step b k.Data) (c : CollectionType)
    (name : String) (m : Manager b) :
    (final (carryOut look (Converter.selectedPlan c name)) m).cache =
      (final (carryOut look (Plan.findRecords name)) m).cache := by
  rw [final, carryOut_selectedPlan]
  cases ho : outcome (carryOut look (Plan.findRecords name)) m with
  | error e => rw [apply_eq_error ho]
  | ok records =>
    rw [apply_eq_ok ho]
    dsimp only
    cases (records.validFor m.run).latest? with
    | none => rfl
    | some record =>
      obtain ⟨w, hw⟩ := asks_readSelected c record
        (final (carryOut look (Plan.findRecords name)) m)
      show (final (readSelected c record) _).cache = _
      rw [hw]
      rfl

theorem settles_selected (hm : m.Shipped) (depth : Nat) {c : CollectionType} (hrows : c ≠ .record)
    (name : String) : SettlesLookup (depth + 2) (.collection c) name m := by
  cases hdata : m.cache.data? (.collection c) name with
  | some all => exact settlesLookup_of_cached hdata (depth + 1)
  | none =>
    rcases hm.find?_eq (.collection c) with hc | hc
    · exact settlesLookup_of_no_converter hdata hc (depth + 1)
    · rw [Converter.shipped_collection hrows] at hc
      have hcache := cache_selectedPlan (lookup (depth + 1)) c name m
      have hplan : SettlesPlan (depth + 1) (Converter.selectedPlan c name) m := by
        have hfind := settles_findRecords hm depth name
        rw [SettlesPlan, carriedOut_selectedPlan]
        exact hfind.of_cache_eq hcache
      refine settlesLookup_of_honest hdata hc hplan ?_
      rw [hcache, findRecords_data? hm depth name (by simpa using hrows), hdata]

theorem settles_getConditions (hm : m.Shipped) (kind : Kind) (name : String) :
    SettlesLookup nestingLimit kind name m := by
  cases kind with
  | text =>
    have hc : m.converters.find? .text = none := (hm.find?_eq .text).elim id id
    cases hdata : m.cache.data? .text name with
    | some text => exact settlesLookup_of_cached hdata 255
    | none => exact settlesLookup_of_no_converter hdata hc 255
  | detector => exact settles_detector hm 255 name
  | collection c =>
    by_cases hc : c = .record
    · subst hc
      exact settles_records hm 255 name
    · exact settles_selected hm 254 hc name

end Lookups

section Operations

variable {m : Manager b}

theorem settles_of_asks {α : Type} {x : Step b α} (hx : Asks x) (m : Manager b) :
    Settles m [] (final x m) := by
  obtain ⟨w, hw⟩ := hx m
  exact .of_same (by rw [hw]; rfl)

theorem settles_onLink {α : Type} (x : EStateM Error (Link b) α) (m : Manager b) :
    Settles m [] (final (onLink x) m) := by
  rw [final_onLink]
  exact .of_same rfl

theorem settles_setParameters (p : Parameters) (m : Manager b) :
    Settles m [] (final (setParameters p) m) :=
  settles_onLink (Link.setParameters p) m

theorem settles_run (hm : m.Shipped) {op : Operation}
    (hop : ¬ (op.renews = true ∧ ∃ a, outcome op.run m = .ok a)) :
    Settles m (op.lookups m) (final op.run m) := by
  -- What would begin a new epoch has failed here, and so it has left the cache as it was.
  have hfailed : op.renews = true → op.allOrNothing = true → Settles m [] (final op.run m) := by
    intro hrenews hall
    cases ho : outcome op.run m with
    | ok a => exact absurd ⟨hrenews, a, ho⟩ hop
    | error e =>
      obtain ⟨w, hw⟩ := run_unchanged hm hall ho
      exact .of_same (by rw [hw]; rfl)
  cases op with
  | configure config => exact hfailed rfl rfl
  | configureText text => exact hfailed rfl rfl
  | configureFile files path => exact hfailed rfl rfl
  | configureResource name => exact hfailed rfl rfl
  | setDetector detector run => exact hfailed rfl rfl
  | addRecord record => exact hfailed rfl rfl
  | getConditions kind name => exact settles_getConditions hm kind name
  | getDetector => exact settles_getConditions hm .detector detectorDescription
  | findRecords name => exact settles_findRecords hm 255 name
  | nextCollectionId table => exact settles_of_asks (asks_nextCollectionId table) m
  | collectionExists table collection =>
    exact settles_of_asks (asks_collectionExists table collection) m
  | connect => exact settles_onLink _ m
  | disconnect openedHere => exact settles_onLink _ m
  | forceDisconnect => exact settles_onLink _ m
  | setParameters p => exact settles_setParameters p m
  | setProperties files path =>
    show Settles m [] (final (conclude _ >>= setParameters) m)
    cases Parameters.ofFile files path with
    | error e => exact .of_same rfl
    | ok p => exact settles_setParameters p m
  | setResource name =>
    show Settles m [] (final (conclude _ >>= setParameters) m)
    cases Parameters.ofResource name with
    | error e => exact .of_same rfl
    | ok p => exact settles_setParameters p m
  | select sql => exact settles_onLink _ m
  | update sql => exact settles_onLink _ m
  | setReader reader => exact .of_same rfl
  | openText name => exact settles_of_asks (asks_openText name) m
  | share => exact .of_same rfl

def Within (c : Cache) (m : Manager b) : Prop :=
  ∀ kind name payload, m.cache.payload? kind name = some payload →
    c.payload? kind name = some payload

theorem within_stable (c : Cache) : Stable (Within (b := b) c) where
  link _ _ h := h
  reader _ _ h := h
  shared _ h := h
  withoutRecords _ h kind name payload hp := h kind name payload (Cache.payload?_of_without hp)

theorem within_held (c : Cache) : Held (Within (b := b) c) := by
  apply (within_stable c).held
  · intro m config s _ _ kind name payload hp
    cases hp
  · intro m detector run _ kind name payload hp
    cases hp

theorem fills_run (hm : m.Shipped) (op : Operation) :
    Fills m (op.lookups m) (final op.run m) := by
  by_cases hop : op.renews = true ∧ ∃ a, outcome op.run m = .ok a
  · have hsame : op.run = op.runBy (b := b) fun _ _ => throw (.notFound .noDetector) := by
      cases op <;> first | rfl | cases hop.1
    have hnone : op.lookups m = [] := by
      cases op <;> first | rfl | cases hop.1
    rw [hsame, hnone]
    exact .of_nothing (((within_held m.cache).runBy_alike (fun _ _ => Alike.throw _) op).keeps m
      fun _ _ _ hp => hp)
  · exact (settles_run hm hop).toFills

theorem cache_configure {config : Config} {a : Unit} (ho : outcome (configure config) m = .ok a) :
    (final (configure config) m).cache = {} := by
  cases hs : setup m.types config with
  | ok s =>
    rw [final, configure_apply hs]
    rfl
  | error e =>
    simp only [outcome, configure, bind_apply, get_apply, hs, conclude_error, throw_apply] at ho
    cases ho

theorem cache_conclude_configure {r : Except Error Config} {a : Unit}
    (ho : outcome (conclude r >>= configure (b := b)) m = .ok a) :
    (final (conclude r >>= configure) m).cache = {} := by
  cases r with
  | ok config => exact cache_configure ho
  | error e => cases ho

theorem cache_setDetector {detector : String} {run : Int} {a : Unit}
    (ho : outcome (setDetector detector run) m = .ok a) :
    (final (setDetector detector run) m).cache = {} := by
  cases hp : m.hasParameters with
  | false =>
    simp only [outcome, setDetector, bind_apply, get_apply, hp, Bool.false_eq_true, if_false,
      throw_apply] at ho
    cases ho
  | true =>
    cases hc : m.isConnected with
    | true =>
      simp only [final, setDetector, bind_apply, get_apply, hp, hc, if_true, modify_apply]
    | false =>
      simp only [outcome, final, setDetector, bind_apply, get_apply, hp, hc, Bool.false_eq_true,
        if_true, if_false] at ho ⊢
      cases hconnect : connect m with
      | ok openedHere m' => rfl
      | error e m' =>
        rw [hconnect] at ho
        cases ho

/-- A switch leaves nothing in the cache. -/
theorem cache_of_switches {op : Operation} (hop : op.switches = true) {a : op.Answer}
    (ho : outcome op.run m = .ok a) : (final op.run m).cache = {} := by
  cases op with
  | configure config => exact cache_configure ho
  | configureText text => exact cache_conclude_configure ho
  | configureFile files path => exact cache_conclude_configure ho
  | configureResource name => exact cache_conclude_configure ho
  | setDetector detector run => exact cache_setDetector ho
  | _ => cases hop

end Operations

section Runs

variable {m : Manager b}

theorem settles_lookupsOf (hm : Reachable .standard m) {moves : List (Move b)}
    (hepoch : Epoch moves m) : ∃ m', Settles m (lookupsOf moves m) m' := by
  induction moves generalizing m with
  | nil => exact ⟨m, .of_same rfl⟩
  | cons move moves ih =>
    cases move with
    | drift world =>
      obtain ⟨m', hm'⟩ := ih (.drift world hm) hepoch
      have hdrift : Settles m [] (m.moved world) := .of_same rfl
      exact ⟨m', hdrift.append hm'⟩
    | call op =>
      obtain ⟨m', hm'⟩ := ih (.step op hm) hepoch.2
      exact ⟨m', (settles_run hm.shipped hepoch.1).append hm'⟩

theorem fills_lookupsOf (hm : Reachable .standard m) (moves : List (Move b)) :
    ∃ m', Fills m (lookupsOf moves m) m' := by
  induction moves generalizing m with
  | nil => exact ⟨m, (Settles.of_same rfl).toFills⟩
  | cons move moves ih =>
    cases move with
    | drift world =>
      obtain ⟨m', hm'⟩ := ih (.drift world hm)
      have hdrift : Settles m [] (m.moved world) := .of_same rfl
      exact ⟨m', hdrift.toFills.append hm'⟩
    | call op =>
      obtain ⟨m', hm'⟩ := ih (.step op hm)
      exact ⟨m', (fills_run hm.shipped op).append hm'⟩

end Runs

/-- Within an epoch a lookup that succeeds is the last for its kind and name that has
run a converter, and those after it bring the same, send nothing and change nothing.
After a switch the first lookup of all that a converter is there for runs it. -/
theorem materialized_once {m : Manager b.recorded} (hm : Reachable .standard m) :
    (∀ moves, Epoch moves m → (lookupsOf moves m).Pairwise Lookup.Repeats) ∧
      ∀ (op : Operation) (a : op.Answer), op.switches = true → outcome op.run m = .ok a →
        ∀ moves (e : Lookup b.recorded), e.FirstIn (lookupsOf moves (final op.run m)) →
          e.ran = (e.before.converters.find? e.kind).isSome := by
  constructor
  · intro moves hepoch
    obtain ⟨m', hsettles⟩ := settles_lookupsOf hm hepoch
    exact hsettles.once
  · intro op a hop ho moves e he
    obtain ⟨m', hfills⟩ := fills_lookupsOf (.step op hm) moves
    apply hfills.first e he
    rw [cache_of_switches hop ho]
    rfl

end Manager

namespace Script

def askedTwice : List (Manager.Move backend.recorded) :=
  [.call (.getConditions (.collection (.channel .badChannel)) "bad"),
   .call (.configure { tables := [], converters := ["UnknownConverter"] }),
   .call (.getConditions (.collection (.channel .badChannel)) "bad"),
   .call (.findRecords "bad")]

theorem askedTwice_epoch : Manager.Epoch askedTwice overlappingManager :=
  have hlookup {op : Operation} (hop : op.renews = false) (m : Manager backend.recorded) :
      ¬ (op.renews = true ∧ ∃ a, outcome op.run m = .ok a) := by
    simp [hop]
  ⟨hlookup rfl _, fun ⟨_, _, h⟩ => (by cases h), hlookup rfl _, hlookup rfl _, trivial⟩

theorem overlapping_once :
    overlappingManager.Reachable .standard ∧
      (Manager.lookupsOf askedTwice overlappingManager).map (fun e => (e.kind, e.ran)) =
        [(.records, true), (.collection (.channel .badChannel), true),
         (.collection (.channel .badChannel), false), (.records, false)] ∧
      (Manager.lookupsOf askedTwice overlappingManager).Pairwise Manager.Lookup.Repeats ∧
      ∀ e : Manager.Lookup backend.recorded,
        e.FirstIn (Manager.lookupsOf askedTwice
          (final (Operation.setDetector "HPS-TestRun-v5" 150).run overlappingManager)) →
        e.ran = (e.before.converters.find? e.kind).isSome :=
  have honce := Manager.materialized_once overlappingManager_reachable
  ⟨overlappingManager_reachable, rfl, honce.1 askedTwice askedTwice_epoch,
    honce.2 (.setDetector "HPS-TestRun-v5" 150) ⟨⟩ rfl rfl askedTwice⟩

end Script
end RunConditions
