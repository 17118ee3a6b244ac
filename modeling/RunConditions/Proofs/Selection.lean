import RunConditions.Database.Script
import RunConditions.Proofs.Latest
import RunConditions.Proofs.Recorded
import RunConditions.Proofs.Shipped
import RunConditions.Proofs.Stable

/-!
# Which rows a lookup selects

A lookup of channel rows goes through the conditions records. The record that
counts for the wanted name and the current run names the table and the
collection of the rows. The main result lists all ways in which such a lookup
can end when nothing is cached, each with its answer and with the statements
that the database has seen by then, and says that there are no others.
-/

set_option autoImplicit false

namespace RunConditions
namespace Manager

variable {b : Backend}

def TableKnown (m : Manager b) : Prop :=
  m.configured = true → ∃ t, m.conditionsTable = some t.name ∧ m.tables.find? t.name = some t

theorem setup_table_known {types : Types} {config : Config} {s : Setup}
    (hs : setup types config = .ok s) :
    ∃ t, s.conditionsTable = t.name ∧ s.tables.find? t.name = some t := by
  have hc := (setup_eq_ok hs).2.2
  rw [Converters.conditionsTable] at hc
  split at hc
  · cases ht : s.tables.ofCollection? .record with
    | none => simp [ht] at hc
    | some t =>
      simp only [ht, Except.ok.injEq] at hc
      have hmem : t ∈ s.tables.list := List.mem_of_find?_eq_some ht
      have hfind : (s.tables.find? t.name).isSome := by
        rw [Tables.find?, List.find?_isSome]
        exact ⟨t, hmem, by simp⟩
      obtain ⟨u, hu⟩ := Option.isSome_iff_exists.mp hfind
      have hname : u.name = t.name := Tables.name_of_find? hu
      exact ⟨u, by rw [hname, hc], by rw [hname, hu]⟩
  · cases hc

theorem tableKnown_lasting : Lasting (TableKnown (b := b)) where
  link _ _ h := h
  reader _ _ h := h
  shared _ h := h
  withoutRecords _ h := h
  cached _ _ _ _ _ _ _ _ _ _ h _ := h
  switched _ _ _ h := h
  setUp _ _ _ _ hs := by
    intro _
    obtain ⟨t, hc, ht⟩ := setup_table_known hs
    exact ⟨t, congrArg some hc, ht⟩

theorem Reachable.tableKnown {types : Types} {m : Manager b} (hm : Reachable types m) :
    m.TableKnown := by
  refine tableKnown_lasting.reachable (fun _ _ h => ?_) hm
  cases h

def recordsText (t : Table) : String :=
  "SELECT * FROM " ++ t.name ++ " ORDER BY " ++ t.key

def rowsText (r : Record) : String :=
  "SELECT * FROM " ++ r.table ++ " WHERE collection_id = " ++ toString r.collection

theorem selectCollection_text (table : String) (n : Int) :
    (Sql.Statement.selectCollection table n).text =
      "SELECT * FROM " ++ table ++ " WHERE collection_id = " ++ toString n := by
  have hwhere : " WHERE " ++ Sql.collectionColumn ++ " = " = " WHERE collection_id = " := by
    decide
  calc (Sql.Statement.selectCollection table n).text
      = "SELECT * FROM " ++ table ++ (" WHERE " ++ Sql.collectionColumn ++ " = ") ++
          toString n := by
        simp only [← String.append_assoc]
        rfl
    _ = _ := congrArg (fun t => "SELECT * FROM " ++ table ++ t ++ toString n) hwhere

def ReadsRecords (m : Manager b.recorded) (h : b.Handle) (t : Table) (all : Collection Record)
    (w : b.World) : Prop :=
  ∃ result, b.select h (recordsText t) m.link.world.1 = (.ok result, w) ∧
    t.read .record result = .ok all

def Chooses (m : Manager b.recorded) (h : b.Handle) (t : Table) (name : String) (record : Record)
    (w : b.World) : Prop :=
  ∃ all, ReadsRecords m h t all w ∧ Record.Counts all.rows name m.run record

/-- How a lookup of rows ends and which statements it has sent by then. The rows
are only asked for if the connection has outlived the question for the records. -/
inductive SelectionEnds (m : Manager b.recorded) (h : b.Handle) (t : Table) (c : CollectionType)
    (name : String) : Except Error (Collection c.row.Row) → List String → Prop where
  | recordsRefused {e : Error} {w : b.World}
      (hselect : b.select h (recordsText t) m.link.world.1 = (.error e, w)) :
      SelectionEnds m h t c name (.error e) [recordsText t]
  | recordsUnreadable {result : ResultSet} {e : Error} {w : b.World}
      (hselect : b.select h (recordsText t) m.link.world.1 = (.ok result, w))
      (hread : t.read .record result = .error e) :
      SelectionEnds m h t c name (.error e) [recordsText t]
  | noRecord {all : Collection Record} {w : b.World} (hall : ReadsRecords m h t all w)
      (hnone : ∀ s ∈ all.rows, ¬ s.Matches name m.run) :
      SelectionEnds m h t c name (.error (.notFound (.noRecord name m.run))) [recordsText t]
  | unknownTable {record : Record} {w : b.World} (hrecord : Chooses m h t name record w)
      (htable : m.tables.find? record.table = none) :
      SelectionEnds m h t c name
        (.error (.configuration (.unknownRecordTable record.id record.table))) [recordsText t]
  | otherCollection {record : Record} {w : b.World} {u : Table}
      (hrecord : Chooses m h t name record w) (htable : m.tables.find? record.table = some u)
      (hc : u.collection ≠ c) :
      SelectionEnds m h t c name
        (.error (.configuration (.otherCollection u.name u.collectionName (.collection c))))
        [recordsText t]
  | connectionLost {record : Record} {w : b.World} {u : Table}
      (hrecord : Chooses m h t name record w) (htable : m.tables.find? record.table = some u)
      (hc : u.collection = c) (hclosed : b.isClosed h w = true) :
      SelectionEnds m h t c name (.error (.query (rowsText record) .notOpen)) [recordsText t]
  | rowsRefused {record : Record} {w w' : b.World} {u : Table} {e : Error}
      (hrecord : Chooses m h t name record w) (htable : m.tables.find? record.table = some u)
      (hc : u.collection = c) (hopen : b.isClosed h w = false)
      (hselect : b.select h (rowsText record) w = (.error e, w')) :
      SelectionEnds m h t c name (.error e) [recordsText t, rowsText record]
  | rowsAnswered {record : Record} {w w' : b.World} {u : Table} {result : ResultSet}
      (hrecord : Chooses m h t name record w) (htable : m.tables.find? record.table = some u)
      (hc : u.collection = c) (hopen : b.isClosed h w = false)
      (hselect : b.select h (rowsText record) w = (.ok result, w')) :
      SelectionEnds m h t c name ((u.read c.row result).map (·.withId record.collection))
        [recordsText t, rowsText record]

theorem exists_selectionEnds (m : Manager b.recorded) (h : b.Handle) (t : Table)
    (c : CollectionType) (name : String) : ∃ o texts, SelectionEnds m h t c name o texts := by
  rcases hselect : b.select h (recordsText t) m.link.world.1 with ⟨e | result, w⟩
  · exact ⟨_, _, .recordsRefused hselect⟩
  cases hread : t.read .record result with
  | error e => exact ⟨_, _, .recordsUnreadable hselect hread⟩
  | ok all =>
    have hall : ReadsRecords m h t all w := ⟨result, hselect, hread⟩
    cases hlatest : ((all.named name).validFor m.run).latest? with
    | none => exact ⟨_, _, .noRecord hall (Collection.latest?_eq_none_iff.mp hlatest)⟩
    | some record =>
      have hrecord : Chooses m h t name record w :=
        ⟨all, hall, Collection.latest?_eq_some_iff.mp hlatest⟩
      cases htable : m.tables.find? record.table with
      | none => exact ⟨_, _, .unknownTable hrecord htable⟩
      | some u =>
        by_cases hc : u.collection = c
        · cases hclosed : b.isClosed h w with
          | true => exact ⟨_, _, .connectionLost hrecord htable hc hclosed⟩
          | false =>
            rcases hrows : b.select h (rowsText record) w with ⟨e | result, w'⟩
            · exact ⟨_, _, .rowsRefused hrecord htable hc hclosed hrows⟩
            · exact ⟨_, _, .rowsAnswered hrecord htable hc hclosed hrows⟩
        · exact ⟨_, _, .otherCollection hrecord htable hc⟩

theorem data?_of_empty {m : Manager b} (h : m.cache.entries = []) (k : Kind) (name : String) :
    m.cache.data? k name = none := by
  simp [Cache.data?, Cache.find?, h]

def cacheRows (c : CollectionType) (name : String) :
    EStateM.Result Error (Manager b) (Collection c.row.Row) →
      EStateM.Result Error (Manager b) (Collection c.row.Row)
  | .error e m => .error e m
  | .ok rows m => .ok rows (m.cached (.collection c) name ⟨.collection c, rows⟩)

/-- A lookup that finds neither rows nor records cached reads the records,
caches them, and then reads the rows. -/
theorem getConditions_selected {m : Manager b} {t : Table} {c : CollectionType}
    (hname : m.conditionsTable = some t.name) (ht : m.tables.find? t.name = some t)
    (hrecords : m.converters.find? .records = some .records)
    (hrows : m.converters.find? (.collection c) = some (.selected c))
    (hall : m.cache.data? .records t.name = none) (name : String)
    (hdata : m.cache.data? (.collection c) name = none) :
    getConditions (.collection c) name m =
      match readRecords t m with
      | .error e m' => .error e m'
      | .ok all m' =>
        match ((all.named name).validFor m.run).latest? with
        | none =>
          .error (.notFound (.noRecord name m.run)) (m'.cached .records t.name ⟨.records, all⟩)
        | some record =>
          cacheRows c name
            (readSelected c record (m'.cached .records t.name ⟨.records, all⟩)) := by
  have hlookup : lookup 255 .records t.name m =
      match readRecords t m with
      | .error e m' => .error e m'
      | .ok all m' => .ok all (m'.cached .records t.name ⟨.records, all⟩) := by
    show lookup (254 + 1) .records t.name m = _
    rw [lookup_apply_of_not_cached hall, materialize_apply_of_honest (k := .records) hrecords,
      carryOut_recordsPlan, hname]
    simp only [ht]
    cases readRecords t m <;> rfl
  rw [getConditions_apply_of_not_cached hdata, materialize_apply_of_honest hrows,
    carryOut_selectedPlan, carryOut_findRecords, hname]
  simp only [hlookup]
  cases readRecords t m with
  | error e m' => rfl
  | ok all m' =>
    dsimp only
    cases ((all.named name).validFor m.run).latest? with
    | none => rfl
    | some record =>
      dsimp only
      cases readSelected c record (m'.cached .records t.name ⟨.records, all⟩) <;> rfl

section ReadSelected

variable {m : Manager b} {c : CollectionType} {record : Record} {u : Table}

theorem readSelected_of_no_table (htable : m.tables.find? record.table = none) :
    readSelected c record m =
      .error (.configuration (.unknownRecordTable record.id record.table)) m := by
  simp only [readSelected, bind_apply, get_apply, htable, throw_apply]

theorem readSelected_of_other_rows (htable : m.tables.find? record.table = some u)
    (hc : u.collection ≠ c) :
    readSelected c record m =
      .error (.configuration (.otherCollection u.name u.collectionName (.collection c))) m := by
  simp only [readSelected, bind_apply, get_apply, htable, hc, ne_eq, not_false_eq_true, if_true,
    throw_apply]

theorem readSelected_of_lost (htable : m.tables.find? record.table = some u) (hc : u.collection = c)
    (hlost : m.isConnected = false) :
    readSelected c record m = .error (.query (rowsText record) .notOpen) m := by
  have hname : u.name = record.table := Tables.name_of_find? htable
  simp only [readSelected, bind_apply, get_apply, htable, hc, ne_eq, not_true_eq_false,
    if_false, hname, selectCollection_text, select_apply_of_not_connected hlost, rowsText]

end ReadSelected

section Recorded

variable {m : Manager b.recorded} {h : b.Handle} {t : Table} {c : CollectionType} {name : String}
  {record : Record}

theorem readRecords_apply (hh : m.link.handle = some h)
    (hopen : b.isClosed h m.link.world.1 = false) (t : Table) :
    readRecords t m =
      match b.select h (recordsText t) m.link.world.1 with
      | (.error e, w) => .error e (m.moved (w, m.sent ++ [recordsText t]))
      | (.ok result, w) =>
        match t.read .record result with
        | .error e => .error e (m.moved (w, m.sent ++ [recordsText t]))
        | .ok all => .ok all (m.moved (w, m.sent ++ [recordsText t])) := by
  have hselect := select_apply_recorded hh hopen (recordsText t)
  rw [readRecords, bind_apply, show (Sql.Statement.selectAll t.name t.key).text = recordsText t
    from rfl, hselect]
  rcases b.select h (recordsText t) m.link.world.1 with ⟨e | result, w⟩
  · rfl
  · cases hread : t.read .record result <;> simp only [hread] <;> rfl

def withRecords (m : Manager b.recorded) (t : Table) (all : Collection Record) (w : b.World) :
    Manager b.recorded :=
  (m.moved (w, m.sent ++ [recordsText t])).cached .records t.name ⟨.records, all⟩

theorem withRecords_isConnected (hh : m.link.handle = some h) (t : Table)
    (all : Collection Record) (w : b.World) :
    (m.withRecords t all w).isConnected = !b.isClosed h w := by
  show Link.isConnected (m.withRecords t all w).link = _
  rw [Link.isConnected, show (m.withRecords t all w).link.handle = some h from hh]
  rfl

theorem readSelected_apply {all : Collection Record} {w : b.World} {u : Table}
    (hh : m.link.handle = some h) (hopen : b.isClosed h w = false)
    (hu : m.tables.find? record.table = some u) (hc : u.collection = c) :
    readSelected c record (m.withRecords t all w) =
      match b.select h (rowsText record) w with
      | (.error e, w') => .error e ((m.withRecords t all w).moved
          (w', m.sent ++ [recordsText t, rowsText record]))
      | (.ok result, w') =>
        (conclude ((u.read c.row result).map (·.withId record.collection)) : Step b.recorded _)
          ((m.withRecords t all w).moved (w', m.sent ++ [recordsText t, rowsText record])) := by
  have hname : u.name = record.table := Tables.name_of_find? hu
  have htext :
      (Sql.Statement.selectCollection u.name record.collection).text = rowsText record := by
    rw [hname, selectCollection_text, rowsText]
  have hsent : (m.withRecords t all w).sent ++ [rowsText record] =
      m.sent ++ [recordsText t, rowsText record] := by
    show (m.sent ++ [recordsText t]) ++ [rowsText record] = _
    rw [List.append_assoc]
    rfl
  have hselect := select_apply_recorded (m := m.withRecords t all w) hh hopen (rowsText record)
  have htables : (m.withRecords t all w).tables.find? record.table = some u := hu
  rw [readSelected, bind_apply, get_apply]
  simp only [htables, hc, ne_eq, not_true_eq_false, if_false, htext, bind_apply, hselect, hsent]
  have hworld : (m.withRecords t all w).link.world.1 = w := rfl
  rw [hworld]
  rcases b.select h (rowsText record) w with ⟨e | result, w'⟩
  · rfl
  · dsimp only
    cases u.read c.row result <;> rfl

structure Ready (m : Manager b.recorded) (h : b.Handle) (t : Table) (c : CollectionType) :
    Prop where
  handle : m.link.handle = some h
  isOpen : b.isClosed h m.link.world.1 = false
  nothingCached : m.cache.entries = []
  conditionsTable : m.conditionsTable = some t.name
  table : m.tables.find? t.name = some t
  records : m.converters.find? .records = some .records
  rows : m.converters.find? (.collection c) = some (.selected c)

namespace Ready

theorem notCached (hr : Ready m h t c) (k : Kind) (name : String) :
    m.cache.data? k name = none :=
  data?_of_empty hr.nothingCached k name

theorem getConditions_of_readsRecords (hr : Ready m h t c) {all : Collection Record} {w : b.World}
    (hall : ReadsRecords m h t all w) (name : String) :
    getConditions (.collection c) name m =
      match ((all.named name).validFor m.run).latest? with
      | none => .error (.notFound (.noRecord name m.run)) (m.withRecords t all w)
      | some record => cacheRows c name (readSelected c record (m.withRecords t all w)) := by
  obtain ⟨result, hselect, hread⟩ := hall
  rw [getConditions_selected hr.conditionsTable hr.table hr.records hr.rows (hr.notCached _ _) _
      (hr.notCached _ _), readRecords_apply hr.handle hr.isOpen, hselect]
  simp only [hread]
  cases ((all.named name).validFor m.run).latest? with
  | none => rfl
  | some record => rfl

theorem getConditions_of_chooses (hr : Ready m h t c) {w : b.World}
    (hrecord : Chooses m h t name record w) :
    ∃ all, getConditions (.collection c) name m =
      cacheRows c name (readSelected c record (m.withRecords t all w)) := by
  obtain ⟨all, hall, hcounts⟩ := hrecord
  refine ⟨all, ?_⟩
  rw [hr.getConditions_of_readsRecords hall, Collection.latest?_eq_some_iff.mpr hcounts]

theorem ends (hr : Ready m h t c) {o : Except Error (Collection c.row.Row)} {texts : List String}
    (he : SelectionEnds m h t c name o texts) :
    outcome (getConditions (.collection c) name) m = o ∧
      (final (getConditions (.collection c) name) m).sent = m.sent ++ texts := by
  cases he with
  | @recordsRefused e w hselect =>
    have hrun : getConditions (.collection c) name m =
        .error e (m.moved (w, m.sent ++ [recordsText t])) := by
      rw [getConditions_selected hr.conditionsTable hr.table hr.records hr.rows (hr.notCached _ _) _
          (hr.notCached _ _), readRecords_apply hr.handle hr.isOpen, hselect]
    rw [outcome, final, hrun]
    exact ⟨rfl, rfl⟩
  | @recordsUnreadable result e w hselect hread =>
    have hrun : getConditions (.collection c) name m =
        .error e (m.moved (w, m.sent ++ [recordsText t])) := by
      rw [getConditions_selected hr.conditionsTable hr.table hr.records hr.rows (hr.notCached _ _) _
          (hr.notCached _ _), readRecords_apply hr.handle hr.isOpen, hselect]
      simp only [hread]
    rw [outcome, final, hrun]
    exact ⟨rfl, rfl⟩
  | noRecord hall hnone =>
    rw [outcome, final, hr.getConditions_of_readsRecords hall,
      Collection.latest?_eq_none_iff.mpr hnone]
    exact ⟨rfl, rfl⟩
  | @unknownTable record w hrecord htable =>
    obtain ⟨all, hrun⟩ := hr.getConditions_of_chooses hrecord
    rw [outcome, final, hrun, readSelected_of_no_table (m := m.withRecords t all w) htable]
    exact ⟨rfl, rfl⟩
  | @otherCollection record w u hrecord htable hc =>
    obtain ⟨all, hrun⟩ := hr.getConditions_of_chooses hrecord
    rw [outcome, final, hrun, readSelected_of_other_rows (m := m.withRecords t all w) htable hc]
    exact ⟨rfl, rfl⟩
  | @connectionLost record w u hrecord htable hc hclosed =>
    obtain ⟨all, hrun⟩ := hr.getConditions_of_chooses hrecord
    have hlost : (m.withRecords t all w).isConnected = false := by
      rw [withRecords_isConnected hr.handle, hclosed, Bool.not_true]
    rw [outcome, final, hrun, readSelected_of_lost (m := m.withRecords t all w) htable hc hlost]
    exact ⟨rfl, rfl⟩
  | rowsRefused hrecord htable hc hopen hselect =>
    obtain ⟨all, hrun⟩ := hr.getConditions_of_chooses hrecord
    rw [outcome, final, hrun, readSelected_apply hr.handle hopen htable hc, hselect]
    exact ⟨rfl, rfl⟩
  | @rowsAnswered _ w w' u result hrecord htable hc hopen hselect =>
    obtain ⟨all, hrun⟩ := hr.getConditions_of_chooses hrecord
    rw [outcome, final, hrun, readSelected_apply hr.handle hopen htable hc, hselect]
    dsimp only
    cases u.read c.row result with
    | error e => exact ⟨rfl, rfl⟩
    | ok rows => exact ⟨rfl, rfl⟩

end Ready
end Recorded

/-- With nothing cached, a lookup of rows over an open connection ends in just
one of the listed ways, and the database has then seen just its statements. -/
theorem lookup_selects {types : Types} {m : Manager b.recorded} (hm : Reachable types m)
    (hconfigured : m.configured = true) (hconnected : m.isConnected = true)
    (hcache : m.cache.entries = [])
    (hrecords : m.converters.find? .records = some .records) {c : CollectionType}
    (hrows : m.converters.find? (.collection c) = some (.selected c)) (name : String) :
    ∃ h t, m.link.handle = some h ∧ m.conditionsTable = some t.name ∧
      m.tables.find? t.name = some t ∧ ∀ o texts, SelectionEnds m h t c name o texts ↔
        outcome (getConditions (.collection c) name) m = o ∧
          (final (getConditions (.collection c) name) m).sent = m.sent ++ texts := by
  obtain ⟨t, hname, ht⟩ := hm.tableKnown hconfigured
  obtain ⟨h, hh, hopen⟩ := Link.isConnected_eq_true.mp hconnected
  have hr : Ready m h t c := ⟨hh, hopen, hcache, hname, ht, hrecords, hrows⟩
  refine ⟨h, t, hh, hname, ht, fun o texts => ⟨hr.ends, ?_⟩⟩
  rintro ⟨rfl, htexts⟩
  obtain ⟨o, texts', he⟩ := exists_selectionEnds m h t c name
  obtain ⟨rfl, htexts'⟩ := hr.ends he
  obtain rfl := List.append_cancel_left (htexts'.symm.trans htexts)
  exact he

end Manager

namespace Script

def overlapping : State where
  selects :=
    [("SELECT * FROM conditions ORDER BY id",
      { columns := "id" :: Record.columns
        rows := [record 4 0 1000 1, record 9 100 200 2, record 7 0 100 3] }),
     ("SELECT * FROM bad_channels WHERE collection_id = 2",
      { columns := ["id", "ecal_channel_id"], rows := [[some (.integer 1), some (.integer 3)]] })]
  closed := false
where
  record (id first last collection : Int) : List (Option Value) :=
    [some (.integer id), some (.integer first), some (.integer last), some (.text "bad"),
     some (.text "bad_channels"), some (.integer collection), none, none, none]

def overlappingConfig : Config where
  tables :=
    [⟨"conditions", "id", "ConditionsRecord", "ConditionsRecordCollection", Record.columns⟩,
     ⟨"bad_channels", "id", "EcalBadChannel", "EcalBadChannelCollection", ["ecal_channel_id"]⟩]
  converters := ["ConditionsRecordConverter", "EcalBadChannelConverter"]

def overlappingManager : Manager backend.recorded :=
  Manager.afterwards Manager.getConditions
    [.configure overlappingConfig, .setDetector "HPS-TestRun-v5" 150]
    { types := .standard, reader := .base Files.none []
      link :=
        { parameters := some ⟨"t1", "x", "hps_conditions_test", "localhost", 5432, "mock"⟩
          handle := some (), world := (overlapping, []) } }

theorem overlappingManager_reachable : overlappingManager.Reachable .standard :=
  .afterwards (.new _ _) _

theorem overlapping_selected :
    overlappingManager.configured = true ∧ overlappingManager.isConnected = true ∧
      outcome (Manager.getConditions (.collection (.channel .badChannel)) "bad")
        overlappingManager = .ok ⟨[⟨1, 3, []⟩], some 2⟩ ∧
      ∃ h t, overlappingManager.link.handle = some h ∧
        overlappingManager.conditionsTable = some t.name ∧
        overlappingManager.tables.find? t.name = some t ∧ ∀ o texts,
          Manager.SelectionEnds overlappingManager h t (.channel .badChannel) "bad" o texts ↔
            outcome (Manager.getConditions (.collection (.channel .badChannel)) "bad")
                overlappingManager = o ∧
              (final (Manager.getConditions (.collection (.channel .badChannel)) "bad")
                overlappingManager).sent = overlappingManager.sent ++ texts :=
  ⟨by decide, by decide, rfl,
    Manager.lookup_selects overlappingManager_reachable (by decide) (by decide) rfl rfl rfl "bad"⟩

def chosenManager : Manager backend.recorded :=
  Manager.afterwards Manager.getConditions
    [.configure
      { overlappingConfig with
        tables :=
          [⟨"conditions", "id", "ConditionsRecord", "ConditionsRecordCollection", Record.columns⟩,
           ⟨"bad_channels", "id", "EcalBadChannel", "ChosenChannels", ["ecal_channel_id"]⟩] },
     .setDetector "HPS-TestRun-v5" 150]
    { overlappingManager with
      types := Types.standard.register "ChosenChannels"
        (.collection (.own "app::ChosenChannels" (.channel .badChannel))) }

example : outcome (Manager.getConditions (.collection (.channel .badChannel)) "bad") chosenManager =
    .error (.configuration
      (.otherCollection "bad_channels" "ChosenChannels" (.collection (.channel .badChannel)))) :=
  rfl

end Script
end RunConditions
