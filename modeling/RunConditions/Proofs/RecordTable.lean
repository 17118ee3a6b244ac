import RunConditions.Database.Backend
import RunConditions.Proofs.StoredRow

/-!
# A table in a database

What a database has to do with the table of conditions records when a manager
asks for the records or adds one, without saying how it does it, and a table in
memory that does so.
-/

set_option autoImplicit false

namespace RunConditions

/-- A database that carries out what a manager sends for its table of records. It answers for as
long as it stores something, the rows are of the right kinds under different keys, and asking for
them or for the rows of another configured table changes none of them. The insert of a record is
refused, or it stores one more row, in which the values that it gives read as they were written. -/
structure Backend.Executes (b : Backend) (h : b.Handle) (tables : Tables) (t : Table)
    (columns : List String) (stores : b.World → List (List (Option Value)) → Prop) : Prop where
  isOpen : ∀ w rows, stores w rows → b.isClosed h w = false
  sound : ∀ w rows, stores w rows → ∀ row ∈ rows, t.SoundRow .record columns row
  unique : ∀ w rows, stores w rows →
    rows.Pairwise fun row row' => valueIn columns row t.key ≠ valueIn columns row' t.key
  selectAll : ∀ w rows, stores w rows →
    stores (b.select h ("SELECT * FROM " ++ t.name ++ " ORDER BY " ++ t.key) w).2 rows ∧
    ∃ result, (b.select h ("SELECT * FROM " ++ t.name ++ " ORDER BY " ++ t.key) w).1 = .ok result ∧
      result.rows.Perm rows ∧ (result.rows ≠ [] → result.columns = columns) ∧
      result.rows.Pairwise fun row row' => ∀ i j, valueIn columns row t.key = some (.integer i) →
        valueIn columns row' t.key = some (.integer j) → i ≤ j
  selectCollection : ∀ w rows u (n : Int), stores w rows → u ∈ tables.list →
    stores (b.select h ("SELECT * FROM " ++ u.name ++ " WHERE collection_id = " ++ toString n) w).2
      rows
  insert : ∀ w rows (record : Record) text given, stores w rows → record.InRange →
    text = (Sql.Statement.insertRecord t.name t.key record).text →
    Sql.readInsert t.name t.key text = some given →
    ((∃ e, (b.update h text w).1 = .error e) ∧ stores (b.update h text w).2 rows) ∨
      ∃ id row, (b.update h text w).1 = .ok [id] ∧ stores (b.update h text w).2 (row :: rows) ∧
        valueIn columns row t.key = some (.integer id) ∧
        ∀ p ∈ given, Value.SameText p.2 (valueIn columns row p.1)

theorem Backend.Executes.exists_records {b : Backend} {h : b.Handle} {tables : Tables} {t : Table}
    {columns : List String} {stores : b.World → List (List (Option Value)) → Prop}
    (hb : b.Executes h tables t columns stores) {w : b.World} {rows : List (List (Option Value))}
    (hw : stores w rows) : ∃ records, List.Forall₂ (t.Shows .record columns) rows records := by
  obtain ⟨records, hread⟩ := exists_mapM_iff.mpr fun row hrow =>
    Table.exists_readRow_iff.mpr (hb.sound w rows hw row hrow)
  exact ⟨records, Table.readRows_eq_ok_iff.mp hread⟩

structure RecordTable where
  next : Int := 1
  rows : List (List (Option Value)) := []

namespace RecordTable

def name : String := "conditions"

def key : String := "id"

def columns : List String :=
  key :: Record.columns

def refusal (sql : String) : Error :=
  .query sql (.other "the statement is refused")

def select (sql : String) (s : RecordTable) : Except Error ResultSet × RecordTable :=
  (if sql = "SELECT * FROM " ++ name ++ " ORDER BY " ++ key then .ok ⟨columns, s.rows.reverse⟩
    else .error (refusal sql), s)

/-- An insert is accepted if it gives just the columns besides the key. -/
def update (sql : String) (s : RecordTable) : Except Error (List Int) × RecordTable :=
  match Sql.readInsert name key sql with
  | none => (.error (refusal sql), s)
  | some given =>
    if given.map Prod.fst = Record.columns then
      (.ok [s.next],
        { next := s.next + 1
          rows := (some (.integer s.next) :: given.map Prod.snd) :: s.rows })
    else (.error (refusal sql), s)

def backend : Backend where
  World := RecordTable
  Handle := Unit
  connect _ s := (.ok (), s)
  select _ := select
  update _ := update
  close _ s := (.ok (), s)
  isClosed _ _ := false

theorem update_insertRecord (r : Record) (s : backend.World) :
    backend.update () (Sql.Statement.insertRecord name key r).text s =
      (.ok [s.next],
        { next := s.next + 1
          rows := (some (.integer s.next) :: Sql.recordCells r) :: s.rows }) := by
  have hnames : (Record.columns.zip (Sql.recordCells r)).map Prod.fst = Record.columns := rfl
  have hcells : (Record.columns.zip (Sql.recordCells r)).map Prod.snd = Sql.recordCells r := rfl
  simp only [backend, update, Sql.readInsert_insertRecord, hnames, hcells, if_true]

def table : Table :=
  ⟨name, key, .record, "ConditionsRecord", "ConditionsRecordCollection", Record.columns⟩

/-- The table has these rows, which show records with falling ids below the next one. -/
def Stores (s : RecordTable) (rows : List (List (Option Value))) : Prop :=
  s.rows = rows ∧ ∃ records : List Record, List.Forall₂ (table.Shows .record columns) rows records ∧
    (records.Pairwise fun r r' => r.id > r'.id) ∧ ∀ r ∈ records, r.id < s.next

theorem columns_differ :
    (Record.columns.Pairwise fun a b => Text.sameLetters a b = false) ∧
      ∀ name ∈ Record.columns, Text.sameLetters key name = false := by
  decide

theorem hasColumn {name : String} (h : name ∈ key :: Record.columns) : HasColumn columns name :=
  ⟨name, h, by simp [Text.sameLetters]⟩

theorem storedIn (r : Record) (hr : r.InRange) :
    r.StoredIn columns key (some (.integer r.id) :: Sql.recordCells r) := by
  refine ⟨?_, fun p hp => ?_, hr⟩
  · rw [columns, valueIn_cons, if_pos (by decide)]
  · rw [columns, valueIn_cons, columns_differ.2 p.1 (List.of_mem_zip hp).1]
    have hgiven : ((Record.columns.zip (Sql.recordCells r)).map Prod.fst).Pairwise fun a b =>
      Text.sameLetters a b = false := columns_differ.1
    exact valueIn_given hgiven p hp

theorem shows (r : Record) (hr : r.InRange) :
    table.Shows .record columns (some (.integer r.id) :: Sql.recordCells r) r :=
  Record.shows_of_storedIn (fun _ => hasColumn) (storedIn r hr)

theorem Stores.cons {s : RecordTable} {rows : List (List (Option Value))} (h : Stores s rows)
    (r : Record) (hr : r.InRange) :
    Stores { next := s.next + 1, rows := (some (.integer s.next) :: Sql.recordCells r) :: s.rows }
      ((some (.integer s.next) :: Sql.recordCells r) :: rows) := by
  obtain ⟨rfl, records, hshows, hfalling, hbelow⟩ := h
  refine ⟨rfl, { r with id := s.next } :: records, .cons (shows { r with id := s.next } hr) hshows,
    List.pairwise_cons.mpr ⟨hbelow, hfalling⟩, fun old hold => ?_⟩
  rcases List.mem_cons.mp hold with rfl | hold
  · exact Int.lt_succ _
  · exact Int.lt_trans (hbelow old hold) (Int.lt_succ _)

theorem executes (tables : Tables) : backend.Executes () tables table columns Stores where
  isOpen _ _ _ := rfl
  sound s rows h row hrow := by
    obtain ⟨-, records, hshows, -⟩ := h
    obtain ⟨r, -, hr⟩ := exists_of_forall₂ hshows.flip hrow
    exact Table.exists_readRow_iff.mp ⟨r, Table.readRow_eq_ok_iff.mpr hr⟩
  unique s rows h := by
    obtain ⟨-, records, hshows, hfalling, -⟩ := h
    refine pairwise_of_forall₂ hshows.flip hfalling fun r r' row row' hr hr' hgt heq => ?_
    rw [Record.valueIn_key_of_shows hr, Record.valueIn_key_of_shows hr', Option.some.injEq,
      Value.integer.injEq] at heq
    omega
  selectAll s rows h := by
    obtain ⟨rfl, records, hshows, hfalling, hbelow⟩ := h
    refine ⟨⟨rfl, records, hshows, hfalling, hbelow⟩, ⟨columns, s.rows.reverse⟩,
      by simp [backend, select, table], List.reverse_perm s.rows, fun _ => rfl,
      List.pairwise_reverse.mpr (pairwise_of_forall₂ hshows.flip hfalling ?_)⟩
    intro r r' row row' hr hr' hgt i j hi hj
    rw [Record.valueIn_key_of_shows hr', Option.some.injEq, Value.integer.injEq] at hi
    rw [Record.valueIn_key_of_shows hr, Option.some.injEq, Value.integer.injEq] at hj
    omega
  selectCollection _ _ _ _ h _ := h
  insert s rows r text given h hr htext hread := by
    rw [htext, Sql.readInsert_insertRecord, Option.some.injEq] at hread
    subst hread
    have hupdate : backend.update () text s = (.ok [s.next],
        { next := s.next + 1, rows := (some (.integer s.next) :: Sql.recordCells r) :: s.rows }) :=
      htext ▸ update_insertRecord r s
    rw [hupdate]
    have hstored := storedIn { r with id := s.next } hr
    refine Or.inr ⟨s.next, _, rfl, h.cons r hr, hstored.id, fun p hp => ?_⟩
    exact Value.sameText_iff.mpr (congrArg (Option.map Value.display) (hstored.values p hp).symm)

end RecordTable
end RunConditions
