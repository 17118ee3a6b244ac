import RunConditions.Proofs.Anew
import RunConditions.Proofs.Atomicity
import RunConditions.Proofs.RecordTable

/-!
# Lookups after a record has been added

Adding a record takes the cached records away, but not the rows that have been
selected by them. A lookup that had not been made before is answered as if
nothing were cached. One that had been made is answered with the rows of that
time, whether or not the new record supersedes the one that gave them.
-/

set_option autoImplicit false

namespace RunConditions
namespace Manager

variable {b : Backend} {m : Manager b}

def emptied (m : Manager b) : Manager b :=
  { m with cache := {} }

theorem data?_emptied (m : Manager b) (k : Kind) (name : String) :
    m.emptied.cache.data? k name = none :=
  data?_of_empty rfl k name

def SameButCache (m m' : Manager b) : Prop :=
  ∃ c, m' = { m with cache := c }

theorem SameButCache.cached {m m' : Manager b} (h : SameButCache m m') (k : Kind) (name : String)
    (payload : Payload) : SameButCache (m.cached k name payload) (m'.cached k name payload) := by
  obtain ⟨c, rfl⟩ := h
  exact ⟨_, rfl⟩

theorem onLink_sameButCache {α : Type} (x : EStateM Error (Link b) α) :
    Alike SameButCache (onLink x) (onLink x) := by
  apply onLink_alike
  rintro m _ ⟨c, rfl⟩
  exact ⟨rfl, c, rfl⟩

theorem readRecords_sameButCache (t : Table) :
    Alike SameButCache (readRecords (b := b) t) (readRecords t) := by
  apply (onLink_sameButCache _).bind
  intro result
  exact Alike.conclude _

theorem SameButCache.sameContext (m m' : Manager b) (h : SameButCache m m') :
    SameContext m m' := by
  obtain ⟨c, rfl⟩ := h
  exact ⟨rfl, rfl, rfl, rfl, rfl, rfl⟩

theorem readSelected_sameButCache (c : CollectionType) (record : Record) :
    Alike SameButCache (readSelected (b := b) c record) (readSelected c record) := by
  apply Alike.get_bind
  rintro m _ ⟨c, rfl⟩
  dsimp only
  split
  · exact Alike.throw _
  · split
    · exact Alike.throw _
    · apply (onLink_sameButCache _).bind
      intro result
      apply (Alike.conclude _).bind
      intro rows
      exact Alike.pure _

theorem addRecord_eq_ok {record : Record} {id : Int} (h : outcome (addRecord record) m = .ok id) :
    ∃ t w, m.conditionsTable = some t.name ∧ m.tables.find? t.name = some t ∧
      final (addRecord record) m = (m.moved w).withoutRecords := by
  cases hname : m.conditionsTable with
  | none =>
    simp only [outcome, addRecord, bind_apply, get_apply, hname, throw_apply] at h
    cases h
  | some name =>
    cases ht : m.tables.find? name with
    | none =>
      simp only [outcome, addRecord, requireTable, bind_apply, get_apply, hname, ht,
        throw_apply] at h
      cases h
    | some t =>
      have htable : t.name = name := Tables.name_of_find? ht
      subst htable
      have hadd := addRecord_apply hname ht record
      obtain ⟨w, hw⟩ := asks_update (Sql.Statement.insertRecord t.name t.key record).text m
      refine ⟨t, w, rfl, ht, ?_⟩
      rw [outcome, hadd] at h
      rw [final, hadd]
      cases ho : outcome (update (Sql.Statement.insertRecord t.name t.key record).text) m with
      | error e =>
        rw [apply_eq_error ho] at h
        cases h
      | ok keys =>
        rw [apply_eq_ok ho, hw] at h ⊢
        cases keys with
        | nil => cases h
        | cons key keys => rfl

/-- A lookup of rows that finds neither rows nor records cached is answered as
one with an empty cache. -/
theorem outcome_getConditions_emptied {t : Table} {c : CollectionType}
    (hname : m.conditionsTable = some t.name) (ht : m.tables.find? t.name = some t)
    (hrecords : m.converters.find? .records = some .records)
    (hrows : m.converters.find? (.collection c) = some (.selected c))
    (hall : m.cache.data? .records t.name = none) (name : String)
    (hdata : m.cache.data? (.collection c) name = none) :
    outcome (getConditions (.collection c) name) m =
      outcome (getConditions (.collection c) name) m.emptied := by
  have hempty := getConditions_selected (m := m.emptied) hname ht hrecords hrows
    (data?_emptied m _ _) name (data?_emptied m _ _)
  rw [outcome, outcome, getConditions_selected hname ht hrecords hrows hall name hdata, hempty]
  have hsame : SameButCache m m.emptied := ⟨{}, rfl⟩
  rcases (readRecords_sameButCache t).cases hsame with
    ⟨all, s, s', hs, hs', hrel⟩ | ⟨e, s, s', hs, hs', -⟩
  · -- Both have the same records, and so the same one of them counts.
    rw [hs, hs']
    dsimp only [emptied]
    cases ((all.named name).validFor m.run).latest? with
    | none => rfl
    | some record =>
      have hcached := hrel.cached .records t.name ⟨.records, all⟩
      dsimp only
      rcases (readSelected_sameButCache c record).cases hcached with
        ⟨rows, u, u', hu, hu', -⟩ | ⟨e, u, u', hu, hu', -⟩
      · rw [hu, hu']
        rfl
      · rw [hu, hu']
        rfl
  · rw [hs, hs']

theorem outcome_getRecords (hrecords : m.converters.find? .records = some .records)
    (name : String) (hdata : m.cache.data? .records name = none) :
    outcome (getConditions .records name) m =
      outcome (carryOut (lookup 255) Converter.recordsPlan) m := by
  rw [outcome, getConditions_apply_of_not_cached hdata,
    materialize_apply_of_honest (k := .records) hrecords, outcome]
  cases carryOut (lookup 255) Converter.recordsPlan m <;> rfl

theorem outcome_getRecords_emptied (hrecords : m.converters.find? .records = some .records)
    (name : String) (hdata : m.cache.data? .records name = none) :
    outcome (getConditions .records name) m =
      outcome (getConditions .records name) m.emptied := by
  have hplan : Alike SameButCache (carryOut (lookup (b := b) 255) Converter.recordsPlan)
      (carryOut (lookup 255) Converter.recordsPlan) :=
    recordsPlan_alike SameButCache.sameContext fun sql => onLink_sameButCache (Link.select sql)
  rw [outcome_getRecords hrecords name hdata,
    outcome_getRecords (m := m.emptied) hrecords name (data?_emptied m _ _)]
  exact (hplan m m.emptied ⟨{}, rfl⟩).1

/-- After a record has been added, records are looked up as if nothing were
cached, and so are rows, unless they have been looked up before. -/
theorem get_after_adding {record : Record} {id : Int}
    (hrecords : m.converters.find? .records = some .records)
    (hadd : outcome (addRecord record) m = .ok id) :
    (∀ name, outcome (getConditions .records name) (final (addRecord record) m) =
      outcome (getConditions .records name) (final (addRecord record) m).emptied) ∧
    ∀ c, c ≠ .record → m.converters.find? (.collection c) = some (.selected c) →
      ∀ name, outcome (getConditions (.collection c) name) (final (addRecord record) m) =
        match m.cache.data? (.collection c) name with
        | some rows => .ok rows
        | none => outcome (getConditions (.collection c) name)
            (final (addRecord record) m).emptied := by
  obtain ⟨u, w, hname, hu, hfinal⟩ := addRecord_eq_ok hadd
  rw [hfinal]
  constructor
  · intro name
    exact outcome_getRecords_emptied (m := (m.moved w).withoutRecords) hrecords name
      (Cache.data?_without_self _ _ _)
  · intro c hc hrows name
    have hkept : (m.moved w).withoutRecords.cache.data? (.collection c) name =
        m.cache.data? (.collection c) name :=
      Cache.data?_without_of_ne (by simpa using hc) m.cache name
    cases hdata : m.cache.data? (.collection c) name with
    | some rows =>
      rw [hdata] at hkept
      rw [outcome, getConditions_apply_of_cached hkept]
    | none =>
      rw [hdata] at hkept
      exact outcome_getConditions_emptied (m := (m.moved w).withoutRecords) hname hu hrecords
        hrows (Cache.data?_without_self _ _ _) name hkept

end Manager

namespace RecordTable

def channels (collection : Int) : ResultSet where
  columns := ["id", "ecal_channel_id"]
  rows := [[some (.integer 1), some (.integer collection)]]

def withChannels : Backend where
  World := RecordTable
  Handle := Unit
  connect := backend.connect
  select _ sql s :=
    if sql = "SELECT * FROM bad_channels WHERE collection_id = 1" then (.ok (channels 1), s)
    else if sql = "SELECT * FROM bad_channels WHERE collection_id = 2" then (.ok (channels 2), s)
    else select sql s
  update := backend.update
  close := backend.close
  isClosed := backend.isClosed

def badChannels (id collection : Int) : Record where
  id := id
  runStart := 0
  runEnd := 1000
  name := "bad"
  table := "bad_channels"
  collection := collection

def lookedUp : Manager withChannels :=
  Manager.afterwards Manager.getConditions
    [.configure
      { tables :=
          [⟨name, key, "ConditionsRecord", "ConditionsRecordCollection", Record.columns⟩,
           ⟨"bad_channels", "id", "EcalBadChannel", "EcalBadChannelCollection",
             ["ecal_channel_id"]⟩]
        converters := ["ConditionsRecordConverter", "EcalBadChannelConverter"] },
     .setDetector "HPS-TestRun-v5" 150,
     .getConditions (.collection (.channel .badChannel)) "bad"]
    { types := .standard, reader := .base Files.none []
      link :=
        { parameters := some ⟨"t1", "x", "hps_conditions_test", "localhost", 5432, "mock"⟩
          handle := some ()
          world :=
            { next := 8, rows := [some (.integer 7) :: Sql.recordCells (badChannels 7 1)] } } }

def records : Table :=
  ⟨name, key, .record, "ConditionsRecord", "ConditionsRecordCollection", Record.columns⟩

theorem lookedUp_ready :
    lookedUp.conditionsTable = some records.name ∧
      lookedUp.tables.find? records.name = some records ∧ lookedUp.link.handle = some () ∧
      lookedUp.link.world = ⟨8, [some (.integer 7) :: Sql.recordCells (badChannels 7 1)]⟩ :=
  ⟨rfl, rfl, rfl, rfl⟩

theorem withChannels_update (text : String) (s : RecordTable) :
    withChannels.update () text s = backend.update () text s := rfl

theorem lookedUp_adds (collection : Int) :
    Manager.addRecord (badChannels 0 collection) lookedUp = .ok 8
      (lookedUp.moved
        { next := 9
          rows := [some (.integer 8) :: Sql.recordCells (badChannels 0 collection),
            some (.integer 7) :: Sql.recordCells (badChannels 7 1)] }).withoutRecords := by
  obtain ⟨hname, htable, hhandle, hworld⟩ := lookedUp_ready
  have hinsert := update_insertRecord (badChannels 0 collection)
    ⟨8, [some (.integer 7) :: Sql.recordCells (badChannels 7 1)]⟩
  rw [Manager.addRecord_apply hname htable, Manager.update_apply hhandle rfl, hworld,
    withChannels_update, show records.name = name from rfl, show records.key = key from rfl,
    hinsert]
  rfl

theorem lookedUp_get :
    outcome (Manager.addRecord (badChannels 0 2)) lookedUp = .ok 8 ∧
      (∀ name, outcome (Manager.getConditions .records name)
          (final (Manager.addRecord (badChannels 0 2)) lookedUp) =
        outcome (Manager.getConditions .records name)
          (final (Manager.addRecord (badChannels 0 2)) lookedUp).emptied) ∧
      lookedUp.cache.data? (.collection (.channel .badChannel)) "worse" = none ∧
      outcome (Manager.getConditions (.collection (.channel .badChannel)) "worse")
          (final (Manager.addRecord (badChannels 0 2)) lookedUp) =
        outcome (Manager.getConditions (.collection (.channel .badChannel)) "worse")
          (final (Manager.addRecord (badChannels 0 2)) lookedUp).emptied := by
  have hadd : outcome (Manager.addRecord (badChannels 0 2)) lookedUp = .ok 8 := by
    rw [outcome, lookedUp_adds]
  have hrecords : lookedUp.converters.find? .records = some .records := rfl
  have hget := Manager.get_after_adding hrecords hadd
  have hworse : lookedUp.cache.data? (.collection (.channel .badChannel)) "worse" = none := rfl
  have hrows := hget.2 (.channel .badChannel) (by decide) rfl "worse"
  rw [hworse] at hrows
  exact ⟨hadd, hget.1, hworse, hrows⟩

/-- The channels that were looked up are answered although the record that has
been added gives others, which a lookup with nothing cached brings. -/
theorem superseded_answered :
    lookedUp.Reachable .standard ∧ lookedUp.configured = true ∧ lookedUp.isConnected = true ∧
      ∃ m, Manager.addRecord (badChannels 0 2) lookedUp = .ok 8 m ∧
        outcome (Manager.getConditions (.collection (.channel .badChannel)) "bad") m =
          .ok ⟨[⟨1, 1, []⟩], some 1⟩ ∧
        outcome (Manager.getConditions (.collection (.channel .badChannel)) "bad") m.emptied =
          .ok ⟨[⟨1, 2, []⟩], some 2⟩ :=
  ⟨.afterwards (.new _ _) _, rfl, rfl, _, lookedUp_adds 2, rfl, rfl⟩

end RecordTable
end RunConditions
