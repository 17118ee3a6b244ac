import RunConditions.Proofs.RowsText
import RunConditions.Proofs.Validation

/-!
# The columns that a load names

The insert of a load names the collection id and then the words of the header
of the data file, as they stand there. Which columns are configured for the
table plays no part: a load goes the same way whatever they are. How many words
the header has is checked, what they are is not.
-/

set_option autoImplicit false

namespace RunConditions

namespace Sql

def Lists (table : String) (names : List String) (sql : String) : Prop :=
  ("INSERT INTO " ++ table ++ " (" ++ ", ".intercalate names ++ ") VALUES ").toList <+: sql.toList

theorem insertRows_lists (table key : String) (collection : Int) {columns : List String}
    (hcolumns : columns ≠ []) (rows : List (List String)) :
    Lists table (collectionColumn :: columns)
      (Statement.insertRows table key collection columns rows).text := by
  rw [Lists, insertRows_text _ _ _ _ _ hcolumns]
  simp only [String.toList_append, List.append_assoc, List.prefix_append_right_inj]
  exact List.prefix_append _ _

end Sql

/-- The names are those of the table: the one of the collection id comes first, the others
are configured, and none comes twice. -/
structure Table.Names (t : Table) (names : List String) : Prop where
  first : names.head? = some Sql.collectionColumn
  configured : ∀ name ∈ names, name = Sql.collectionColumn ∨ t.hasField name = true
  distinct : names.Nodup

theorem Table.names_cons_iff (t : Table) (columns : List String) :
    t.Names (Sql.collectionColumn :: columns) ↔ (∀ column ∈ columns, t.hasField column = true) ∧
      Sql.collectionColumn ∉ columns ∧ columns.Nodup := by
  constructor
  · rintro ⟨-, hconfigured, hdistinct⟩
    obtain ⟨hnew, hdistinct⟩ := List.nodup_cons.mp hdistinct
    refine ⟨fun column hcolumn => ?_, hnew, hdistinct⟩
    rcases hconfigured column (List.mem_cons_of_mem _ hcolumn) with rfl | hfield
    · exact absurd hcolumn hnew
    · exact hfield
  · rintro ⟨hconfigured, hnew, hdistinct⟩
    refine ⟨rfl, ?_, List.nodup_cons.mpr ⟨hnew, hdistinct⟩⟩
    exact List.forall_mem_cons.mpr ⟨Or.inl rfl, fun name hname => Or.inr (hconfigured name hname)⟩

/-- The table with other columns configured. -/
def Table.withFields (fields : Table → List String) (t : Table) : Table :=
  { t with fields := fields t }

def Tables.withFields (fields : Table → List String) (ts : Tables) : Tables :=
  ⟨ts.list.map (Table.withFields fields)⟩

theorem Tables.find?_withFields (fields : Table → List String) (ts : Tables) (name : String) :
    (ts.withFields fields).find? name = (ts.find? name).map (Table.withFields fields) := by
  simp only [find?, withFields, List.find?_map]
  rfl

variable {b : Backend}

namespace Manager

def withFields (fields : Table → List String) (m : Manager b) : Manager b :=
  { m with tables := m.tables.withFields fields }

def SameButFields (fields : Table → List String) (t : Table) (m m' : Manager b) : Prop :=
  m.tables.find? t.name = some t ∧ m' = m.withFields fields

variable {fields : Table → List String} {t : Table}

theorem onLink_sameButFields {α : Type} (x : EStateM Error (Link b) α) :
    Alike (SameButFields fields t) (onLink x) (onLink x) := by
  apply onLink_alike
  rintro m _ ⟨ht, rfl⟩
  exact ⟨rfl, ht, rfl⟩

end Manager

namespace CommandLine
open Manager

section Fields

variable {fields : Table → List String} {t : Table}

theorem freeCollection_sameButFields (collection : Option Int) :
    Alike (SameButFields (b := b) fields t) (freeCollection t collection)
      (freeCollection (t.withFields fields) collection) := by
  rintro m _ ⟨ht, rfl⟩
  have ht' : (m.withFields fields).tables.find? (t.withFields fields).name =
      some (t.withFields fields) := by
    show (m.tables.withFields fields).find? t.name = _
    rw [Tables.find?_withFields, ht]
    rfl
  have hasked : Alike (SameButFields (b := b) fields t)
      (select (idStatement t collection).text >>= fun answer =>
        conclude (chooseId t collection answer))
      (select (idStatement t collection).text >>= fun answer =>
        conclude (chooseId t collection answer)) :=
    (onLink_sameButFields _).bind fun _ => Alike.conclude _
  simp only [outcome, final, freeCollection_apply ht, freeCollection_apply ht']
  exact hasked m _ ⟨ht, rfl⟩

theorem connected_sameButFields (collection : Option Int) (data : DataFile) :
    Alike (SameButFields (b := b) fields t) (connected (insertCollection t collection data))
      (connected (insertCollection (t.withFields fields) collection data)) := by
  apply connected_alike (onLink_sameButFields _) fun _ => onLink_sameButFields _
  apply insertCollection_alike rfl rfl collection data (freeCollection_sameButFields collection)
  exact fun _ => onLink_sameButFields _

theorem load_withFields (s : Surroundings) (a : LoadArguments) (m : Manager b)
    (fields : Table → List String) :
    outcome (load s a) (m.withFields fields) = outcome (load s a) m ∧
      final (load s a) (m.withFields fields) = (final (load s a) m).withFields fields := by
  have htables : (m.withFields fields).tables = m.tables.withFields fields := rfl
  simp only [outcome, final, load_apply, loadWork, htables, Tables.find?_withFields]
  cases ht : m.tables.find? a.table with
  | none => exact ⟨rfl, rfl⟩
  | some t =>
    dsimp only [Option.map_some]
    cases DataFile.read s.files a.file with
    | error e => exact ⟨rfl, rfl⟩
    | ok data =>
      have hname : t.name = a.table := Tables.name_of_find? ht
      have hm : SameButFields fields t m (m.withFields fields) := by
        refine ⟨?_, rfl⟩
        rw [hname, ht]
      obtain ⟨houtcome, -, hfinal⟩ :=
        connected_sameButFields a.collection data m (m.withFields fields) hm
      exact ⟨houtcome.symm, hfinal⟩

end Fields

/-- There is a connection, it stays open while a free id is asked for and found, and there are
rows to insert, each with this many values. -/
def Insertable (m : Manager b.journaled) (t : Table) (collection : Option Int) (width : Nat)
    (rows : List (List String)) : Prop :=
  ∃ h w answer id v, WorksOn m h w ∧ b.isClosed h w = false ∧
    b.select h (idStatement t collection).text w = (.ok answer, v) ∧
    chooseId t collection answer = .ok id ∧ b.isClosed h v = false ∧
    rows ≠ [] ∧ ∀ row ∈ rows, row.length = width

section Prepared

variable {s : Surroundings} {a : LoadArguments} {m : Manager b.journaled} {t : Table}
  {data : DataFile}

theorem load_update_iff (ht : m.tables.find? a.table = some t)
    (hdata : DataFile.read s.files a.file = .ok data) :
    ∃ texts, (final (load s a) m).link.asked = m.link.asked ++ texts ∧
      (∀ found, outcome (load s a) m = .ok found → ∃ sql, .update sql ∈ texts) ∧
      ∀ sql, .update sql ∈ texts ↔ ∃ h w answer id v, WorksOn m h w ∧ b.isClosed h w = false ∧
        b.select h (idStatement t a.collection).text w = (.ok answer, v) ∧
        chooseId t a.collection answer = .ok id ∧ b.isClosed h v = false ∧
        (data.rows ≠ [] ∧ ∀ row ∈ data.rows, row.length = data.columns.length) ∧
        sql = (rowsStatement t data id).text := by
  have hcolumns := DataFile.columns_ne_nil hdata
  by_cases hworks : ∃ h w, WorksOn m h w
  · obtain ⟨h, w, hm⟩ := hworks
    obtain ⟨o, texts, w', hends, hasked, closed, houtcome, -⟩ := load_ends hm ht hdata
    refine ⟨texts, hasked, ?_, ?_⟩
    · intro found hfound
      exact hends.update_of_ok (settled_eq_ok (houtcome.symm.trans hfound))
    · intro sql
      constructor
      · intro hsql
        obtain ⟨answer, id, v, keys, hopen, hselect, hid, hinsert, hstill, -, htext, -⟩ :=
          hends.sent_update hsql
        have hrows := (insert_eq_ok_rowsStatement_iff hcolumns).mp hinsert
        exact ⟨h, w, answer, id, v, hm, hopen, hselect, hid, hstill, hrows, htext⟩
      · rintro ⟨h', w', answer, id, v, hm', hopen, hselect, hid, hstill, hrows, rfl⟩
        obtain ⟨rfl, rfl⟩ := hm.unique hm'
        have hinsert : Sql.Statement.insert t.name t.key id data.columns data.rows =
            .ok (rowsStatement t data id) := (insert_eq_ok_rowsStatement_iff hcolumns).mpr hrows
        exact hends.update_mem hopen hselect hid hinsert hstill
  · have hnone : ∀ h w, ¬ WorksOn m h w := fun h w hm => hworks ⟨h, w, hm⟩
    have hload := load_of_prepared (m := m) ht hdata
    obtain ⟨⟨e, he⟩, hasked⟩ :=
      connected_of_no_connection hnone (insertCollection t a.collection data)
    refine ⟨[], ?_, ?_, ?_⟩
    · rw [final, hload, ← final, hasked, List.append_nil]
    · intro found hfound
      rw [outcome, hload, ← outcome, he] at hfound
      cases hfound
    · intro sql
      simp only [List.not_mem_nil, false_iff]
      rintro ⟨h, w, answer, id, v, hm, -⟩
      exact hnone h w hm

theorem load_sends (ht : m.tables.find? a.table = some t)
    (hdata : DataFile.read s.files a.file = .ok data) :
    ∃ texts, (final (load s a) m).link.asked = m.link.asked ++ texts ∧
      (∀ sql, .update sql ∈ texts → data.rows ≠ [] ∧
        (∀ row ∈ data.rows, row.length = data.columns.length) ∧
        ∃ id, sql = (rowsStatement t data id).text) ∧
      ((∃ sql, .update sql ∈ texts) ↔
        Insertable m t a.collection data.columns.length data.rows) := by
  obtain ⟨texts, hasked, -, hiff⟩ := load_update_iff ht hdata
  refine ⟨texts, hasked, ?_, ?_⟩
  · intro sql hsql
    obtain ⟨h, w, answer, id, v, -, -, -, -, -, ⟨hrows, hwidths⟩, htext⟩ := (hiff sql).mp hsql
    exact ⟨hrows, hwidths, id, htext⟩
  · constructor
    · rintro ⟨sql, hsql⟩
      obtain ⟨h, w, answer, id, v, hm, hopen, hselect, hid, hstill, hrows, -⟩ :=
        (hiff sql).mp hsql
      exact ⟨h, w, answer, id, v, hm, hopen, hselect, hid, hstill, hrows⟩
    · rintro ⟨h, w, answer, id, v, hm, hopen, hselect, hid, hstill, hrows⟩
      exact ⟨_, (hiff _).mpr ⟨h, w, answer, id, v, hm, hopen, hselect, hid, hstill, hrows, rfl⟩⟩

end Prepared

theorem load_unprepared {s : Surroundings} {a : LoadArguments} {m : Manager b} {e : Error}
    (h : loadWork s a m = .error e) : final (load s a) m = m := by
  rw [final, load_apply, h]

/-- The columns that are configured change neither what a load answers nor what it does.
Every insert that it sends lists the collection id and then the words of the header, and
these are names of the table only if the header has been written so. The insert is sent
just if the rows can be inserted, which depends on how many words the header has and not
on what they are. -/
theorem load_names (s : Surroundings) (a : LoadArguments) (m : Manager b.journaled) :
    (∀ fields, outcome (load s a) (m.withFields fields) = outcome (load s a) m ∧
      final (load s a) (m.withFields fields) = (final (load s a) m).withFields fields) ∧
    ∃ texts, (final (load s a) m).link.asked = m.link.asked ++ texts ∧
      (∀ sql, .update sql ∈ texts → ∃ t data, m.tables.find? a.table = some t ∧
        DataFile.read s.files a.file = .ok data ∧
        Sql.Lists t.name (Sql.collectionColumn :: data.columns) sql ∧
        ((∀ column ∈ data.columns, Sql.PlainName column) → ∃ tuples,
          Sql.readRows t.name sql =
            some (⟨Sql.collectionColumn :: data.columns, tuples⟩, t.key)) ∧
        (t.Names (Sql.collectionColumn :: data.columns) ↔
          (∀ column ∈ data.columns, t.hasField column = true) ∧
            Sql.collectionColumn ∉ data.columns ∧ data.columns.Nodup)) ∧
      ∀ t data, m.tables.find? a.table = some t → DataFile.read s.files a.file = .ok data →
        ((∃ sql, .update sql ∈ texts) ↔
          Insertable m t a.collection data.columns.length data.rows) := by
  refine ⟨load_withFields s a m, ?_⟩
  cases hwork : loadWork s a m with
  | error e =>
    refine ⟨[], ?_, ?_, ?_⟩
    · rw [load_unprepared hwork, List.append_nil]
    · rintro sql ⟨⟩
    · intro t data ht hdata
      rw [loadWork, ht, hdata] at hwork
      cases hwork
  | ok body =>
    obtain ⟨t, data, ht, hdata, -⟩ := loadWork_eq_ok hwork
    obtain ⟨texts, hasked, hsent, hiff⟩ := load_sends ht hdata
    refine ⟨texts, hasked, ?_, ?_⟩
    · intro sql hsql
      obtain ⟨hrows, hwidths, id, rfl⟩ := hsent sql hsql
      have hcolumns := DataFile.columns_ne_nil hdata
      refine ⟨t, data, ht, hdata, Sql.insertRows_lists _ _ _ hcolumns _, ?_,
        t.names_cons_iff data.columns⟩
      intro hplain
      exact ⟨_, Sql.readRows_insertRows t.name t.key id hcolumns hplain hrows hwidths⟩
    · intro t' data' ht' hdata'
      obtain rfl := Option.some.inj (ht.symm.trans ht')
      obtain rfl := Except.ok.inj (hdata.symm.trans hdata')
      exact hiff

end CommandLine

namespace Script
open CommandLine

def strayHeader : Surroundings where
  files path :=
    if path = "channels.txt" then .text "ecal_channel_id run_start collection_id\n11 5 6\n"
    else .missing
  user := "tester"

def strayInsert : String :=
  "INSERT INTO bad_channels (collection_id, ecal_channel_id, run_start, collection_id) " ++
    "VALUES (3, '11', '5', '6') RETURNING id"

def takingChannels : State where
  selects := [("SELECT MAX(collection_id)+1 FROM bad_channels", ⟨["id"], [[some (.integer 3)]]⟩)]
  updates := [("INSERT INTO bad_channels", [40])]

def takingManager : Manager backend.journaled :=
  Manager.afterwards Manager.getConditions
    [.configure overlappingConfig,
     .setParameters ⟨"t1", "x", "hps_conditions_test", "localhost", 5432, "mock"⟩]
    (Manager.new .standard (.base Files.none []) (takingChannels, []))

/-- A column that is not configured is inserted into, and the collection id is named twice. -/
theorem stray_names_inserted :
    (outcome (load strayHeader channelsLoad) takingManager).toOption = some ⟨3, [40]⟩ ∧
      (final (load strayHeader channelsLoad) takingManager).link.asked =
        [.select "SELECT MAX(collection_id)+1 FROM bad_channels", .update strayInsert] ∧
      (Sql.readRows "bad_channels" strayInsert).map (·.1.names) =
        some ["collection_id", "ecal_channel_id", "run_start", "collection_id"] ∧
      ∃ t, takingManager.tables.find? "bad_channels" = some t ∧
        t.hasField "run_start" = false ∧
        ¬ t.Names ["collection_id", "ecal_channel_id", "run_start", "collection_id"] := by
  refine ⟨by decide +kernel, rfl, by decide +kernel, _, rfl, rfl, ?_⟩
  intro hnames
  exact absurd hnames.distinct (by decide)

end Script
end RunConditions
