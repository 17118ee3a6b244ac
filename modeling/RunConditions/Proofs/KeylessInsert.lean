import RunConditions.Proofs.Cache
import RunConditions.Proofs.Selection

/-!
# Finding records after an insert

The cached records are dropped once the database has told the key of a record
that it has taken. A database that takes the record and tells no key makes
adding it fail, and the cached records stay: what is found from then on is what
was there before, and nothing is asked.
-/

set_option autoImplicit false

namespace RunConditions
namespace Manager

variable {b : Backend}

def insertText (t : Table) (record : Record) : String :=
  (Sql.Statement.insertRecord t.name t.key record).text

/-- The manager has this connection, and reads records from this table by the converter
that ships. -/
structure ReadsFrom (m : Manager b) (h : b.Handle) (t : Table) : Prop where
  handle : m.link.handle = some h
  conditionsTable : m.conditionsTable = some t.name
  table : m.tables.find? t.name = some t
  converter : m.converters.find? .records = some .records

/-- Finding records reads all of them from the table. -/
structure FindsAnew (m : Manager b.recorded) (h : b.Handle) (t : Table) : Prop where
  answer : ∀ name, outcome (findRecords name) m =
    (outcome (readRecords t) m).map fun all => all.named name
  asks : b.isClosed h m.link.world.1 = false →
    ∀ name, (final (findRecords name) m).sent = m.sent ++ [recordsText t]

def Inserts (m : Manager b.recorded) (h : b.Handle) (t : Table) (record : Record)
    (keys : List Int) (w : b.World) : Prop :=
  b.update h (insertText t record) m.link.world.1 = (.ok keys, w)

theorem findRecords_of_cached {m : Manager b} {t : Table}
    (hname : m.conditionsTable = some t.name) {all : Collection Record}
    (hall : m.cache.data? .records t.name = some all) (name : String) :
    findRecords name m = .ok (all.named name) m := by
  have hlookup : getConditions .records t.name m = .ok all m := getConditions_apply_of_cached hall
  rw [findRecords, execute, carryOut_findRecords, hname]
  simp only [hlookup]

section Finding

variable {m : Manager b.recorded} {h : b.Handle} {t : Table} {record : Record} {w : b.World}

theorem ReadsFrom.findRecords (hm : m.ReadsFrom h t)
    (hnone : m.cache.data? .records t.name = none) (name : String) :
    findRecords name m =
      match readRecords t m with
      | .error e m' => .error e m'
      | .ok all m' => .ok (all.named name) (m'.cached .records t.name ⟨.records, all⟩) := by
  have hlookup := getConditions_apply_of_not_cached (k := .records) hnone
  rw [materialize_apply_of_honest (k := .records) hm.converter, carryOut_recordsPlan,
    hm.conditionsTable] at hlookup
  simp only [hm.table] at hlookup
  rw [Manager.findRecords, execute, carryOut_findRecords, hm.conditionsTable]
  simp only [hlookup]
  cases readRecords t m <;> rfl

theorem ReadsFrom.findsAnew (hm : m.ReadsFrom h t)
    (hnone : m.cache.data? .records t.name = none) : m.FindsAnew h t := by
  constructor
  · intro name
    rw [outcome, outcome, hm.findRecords hnone]
    cases readRecords t m <;> rfl
  · intro hopen name
    rw [final, hm.findRecords hnone, readRecords_apply hm.handle hopen]
    rcases b.select h (recordsText t) m.link.world.1 with ⟨e | result, w⟩
    · rfl
    · dsimp only
      cases t.read .record result <;> rfl

def inserted (m : Manager b.recorded) (t : Table) (record : Record) (w : b.World) :
    Manager b.recorded :=
  m.moved (w, m.sent ++ [insertText t record])

theorem ReadsFrom.inserted (hm : m.ReadsFrom h t) (record : Record) (w : b.World) :
    (m.inserted t record w).ReadsFrom h t :=
  ⟨hm.handle, hm.conditionsTable, hm.table, hm.converter⟩

theorem ReadsFrom.withoutRecords (hm : m.ReadsFrom h t) : m.withoutRecords.ReadsFrom h t :=
  ⟨hm.handle, hm.conditionsTable, hm.table, hm.converter⟩

theorem ReadsFrom.addRecord_keyed (hm : m.ReadsFrom h t)
    (hopen : b.isClosed h m.link.world.1 = false) {id : Int} {rest : List Int}
    (hinsert : Inserts m h t record (id :: rest) w) :
    addRecord record m = .ok id (m.inserted t record w).withoutRecords := by
  rw [addRecord_apply hm.conditionsTable hm.table, ← insertText,
    update_apply_recorded hm.handle hopen, hinsert]
  rfl

theorem ReadsFrom.addRecord_keyless (hm : m.ReadsFrom h t)
    (hopen : b.isClosed h m.link.world.1 = false) (hinsert : Inserts m h t record [] w) :
    addRecord record m =
      .error (.query (insertText t record) .noGeneratedKey) (m.inserted t record w) := by
  rw [addRecord_apply hm.conditionsTable hm.table, ← insertText,
    update_apply_recorded hm.handle hopen, hinsert]
  rfl

/-- A record whose key has been told leaves no records cached. -/
theorem ReadsFrom.find_after_keyed (hm : m.ReadsFrom h t) :
    (∀ e ∈ (m.inserted t record w).withoutRecords.cache.entries, e.kind ≠ .records) ∧
      (m.inserted t record w).withoutRecords.FindsAnew h t := by
  constructor
  · intro e he
    exact (Cache.mem_without he).2
  · exact (hm.inserted record w).withoutRecords.findsAnew (Cache.data?_without_self _ _ _)

theorem ReadsFrom.find_after_keyless (hm : m.ReadsFrom h t) :
    (∀ all, m.cache.data? .records t.name = some all → ∀ name,
        Manager.findRecords name (m.inserted t record w) =
          .ok (all.named name) (m.inserted t record w)) ∧
      (m.cache.data? .records t.name = none → (m.inserted t record w).FindsAnew h t) := by
  have hasked := hm.inserted record w
  constructor
  · intro all hall
    exact findRecords_of_cached hasked.conditionsTable hall
  · exact hasked.findsAnew

end Finding

/-- When the database has taken a record and told a key, no records are cached and the
next ones are read anew. When it has told none, adding fails and the cache is as it was,
so that records which are cached are found again with nothing asked. -/
theorem find_after_insert {types : Types} {m : Manager b.recorded} (hm : Reachable types m)
    (hconfigured : m.configured = true) (hconnected : m.isConnected = true)
    (hrecords : m.converters.find? .records = some .records) :
    ∃ h t, m.link.handle = some h ∧ m.conditionsTable = some t.name ∧
      m.tables.find? t.name = some t ∧ ∀ record keys w, Inserts m h t record keys w →
        let added := final (addRecord record) m
        added.sent = m.sent ++ [insertText t record] ∧
          (∀ id rest, keys = id :: rest → outcome (addRecord record) m = .ok id ∧
            (∀ e ∈ added.cache.entries, e.kind ≠ .records) ∧ added.FindsAnew h t) ∧
          (keys = [] →
            outcome (addRecord record) m =
                .error (.query (insertText t record) .noGeneratedKey) ∧
              added.cache = m.cache ∧
              (∀ all, m.cache.data? .records t.name = some all →
                ∀ name, findRecords name added = .ok (all.named name) added) ∧
              (m.cache.data? .records t.name = none → added.FindsAnew h t)) := by
  obtain ⟨t, hname, ht⟩ := hm.tableKnown hconfigured
  obtain ⟨h, hh, hopen⟩ := Link.isConnected_eq_true.mp hconnected
  have hreads : m.ReadsFrom h t := ⟨hh, hname, ht, hrecords⟩
  refine ⟨h, t, hh, hname, ht, ?_⟩
  intro record keys w hinsert added
  cases keys with
  | nil =>
    have hadd := hreads.addRecord_keyless hopen hinsert
    have hadded : added = m.inserted t record w := by
      show final (addRecord record) m = _
      rw [final, hadd]
    rw [hadded, outcome, hadd]
    exact ⟨rfl, fun _ _ hkeys => (by cases hkeys), fun _ => ⟨rfl, rfl, hreads.find_after_keyless⟩⟩
  | cons id rest =>
    have hadd := hreads.addRecord_keyed hopen hinsert
    have hadded : added = (m.inserted t record w).withoutRecords := by
      show final (addRecord record) m = _
      rw [final, hadd]
    rw [hadded, outcome, hadd]
    refine ⟨rfl, ?_, fun hkeys => by cases hkeys⟩
    rintro _ _ ⟨rfl, rfl⟩
    exact ⟨rfl, hreads.find_after_keyed⟩

end Manager

namespace Script

def newChannels : Record where
  id := 0
  runStart := 0
  runEnd := 1000
  name := "bad"
  table := "bad_channels"
  collection := 5

def foundManager : Manager backend.recorded :=
  final (Operation.findRecords "bad").run overlappingManager

theorem foundManager_reachable : foundManager.Reachable .standard :=
  .step _ overlappingManager_reachable

def foundRecords : Collection Record where
  rows := [badChannels 4 0 1000 1, badChannels 9 100 200 2, badChannels 7 0 100 3]
where
  badChannels (id first last collection : Int) : Record :=
    { id, runStart := first, runEnd := last, name := "bad", table := "bad_channels", collection }

def conditions : Table :=
  ⟨"conditions", "id", .record, "ConditionsRecord", "ConditionsRecordCollection", Record.columns⟩

theorem foundManager_inserts : ∃ w, Manager.Inserts foundManager () conditions newChannels [] w :=
  ⟨_, rfl⟩

theorem found_again :
    foundManager.configured = true ∧ foundManager.isConnected = true ∧
      foundManager.converters.find? .records = some .records ∧
      foundManager.cache.data? .records "conditions" = some foundRecords ∧
      outcome (Manager.findRecords "bad")
          (final (Manager.addRecord newChannels) foundManager) =
        .ok (foundRecords.named "bad") := by
  refine ⟨rfl, rfl, rfl, rfl, ?_⟩
  obtain ⟨⟨⟩, t, -, hname, ht, hfind⟩ :=
    Manager.find_after_insert foundManager_reachable rfl rfl rfl
  have hconditions : conditions = t := by
    have hn : some conditions.name = some t.name := hname
    rw [← Option.some.inj hn] at ht
    exact Option.some.inj ht
  subst hconditions
  obtain ⟨w, hinsert⟩ := foundManager_inserts
  obtain ⟨-, -, hkeyless⟩ := hfind newChannels [] w hinsert
  rw [outcome, (hkeyless rfl).2.2.1 foundRecords rfl "bad"]

/-- The record has reached the database, adding it has failed, and the records from before
it are found without a question. -/
theorem new_record_hidden :
    foundManager.Reachable .standard ∧ foundManager.configured = true ∧
      foundManager.isConnected = true ∧
      (∃ w, Manager.Inserts foundManager () conditions newChannels [] w) ∧
      (final (Manager.addRecord newChannels) foundManager).sent =
        foundManager.sent ++ [Manager.insertText conditions newChannels] ∧
      ((final (Manager.addRecord newChannels) foundManager).cache.find?
        .records "conditions").isSome = true ∧
      (final (Manager.findRecords "bad")
          (final (Manager.addRecord newChannels) foundManager)).sent =
        (final (Manager.addRecord newChannels) foundManager).sent :=
  ⟨foundManager_reachable, rfl, rfl, foundManager_inserts, rfl, rfl, rfl⟩

end Script
end RunConditions
