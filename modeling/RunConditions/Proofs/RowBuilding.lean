import RunConditions.Proofs.Format
import RunConditions.Proofs.Sequence
import RunConditions.Table

/-!
# The rows that are built

A row is read column by column, each in its format. A result set is read as one
object for each row, in order, or it is refused for the first thing that is
wrong: a configured field that is no column, or else the first column that is
not sound in the first row that has one.
-/

set_option autoImplicit false

namespace RunConditions

abbrev Item : Type :=
  Σ f : Format, f.Content

namespace RowType

/-- The columns that a row is read from, in order, each with its format. -/
def layout : RowType → String → List (String × Format)
  | record, key =>
    [(key, .integer), ("run_start", .integer32), ("run_end", .integer32), ("name", .text),
     ("table_name", .text), ("collection_id", .integer), ("tag", .anyText),
     ("created_by", .anyText), ("notes", .anyText)]
  | channel t, key =>
    (key, .integer) :: (ChannelRow.channelColumn, .integer32) ::
      t.quantities.map fun quantity => (quantity, .number)

def items : (r : RowType) → r.Row → List Item
  | record, row =>
    [⟨.integer, row.id⟩, ⟨.integer32, row.runStart⟩, ⟨.integer32, row.runEnd⟩, ⟨.text, row.name⟩,
     ⟨.text, row.table⟩, ⟨.integer, row.collection⟩, ⟨.anyText, row.tag⟩,
     ⟨.anyText, row.createdBy⟩, ⟨.anyText, row.notes⟩]
  | channel _, row =>
    ⟨.integer, row.id⟩ :: ⟨.integer32, row.channel⟩ :: row.readings.map fun x => ⟨.number, x⟩

theorem items_injective (r : RowType) : Function.Injective r.items := by
  intro row row' h
  cases r with
  | record =>
    cases row
    cases row'
    simpa [items] using h
  | channel t =>
    obtain ⟨id, channel, readings⟩ := row
    obtain ⟨id', channel', readings'⟩ := row'
    have hnumber : Function.Injective fun x : Float => (⟨.number, x⟩ : Item) :=
      fun x y hxy => by simpa using hxy
    simpa [items, hnumber.list_map.eq_iff] using h

end RowType

def Fields.item (f : Fields) (part : String × Format) : Except Error Item :=
  (part.2.read f part.1).map (⟨part.2, ·⟩)

theorem mapM_number (f : Fields) (quantities : List String) :
    (quantities.map fun quantity => (quantity, Format.number)).mapM f.item =
      (quantities.mapM f.float).map fun readings => readings.map fun x => ⟨.number, x⟩ := by
  induction quantities with
  | nil => rfl
  | cons quantity quantities ih =>
    rw [List.map_cons, List.mapM_cons, ih, List.mapM_cons]
    show ((f.float quantity).map _ >>= _) = _
    cases f.float quantity with
    | error e => rfl
    | ok x => cases quantities.mapM f.float <;> rfl

theorem RowType.read_items (r : RowType) (f : Fields) :
    (r.read f).map r.items = (r.layout f.key).mapM f.item := by
  cases r with
  | record =>
    simp only [layout, List.mapM_cons, List.mapM_nil, Fields.item, Format.read, read, Record.read,
      Fields.rowId, map_eq_bind, bind_assoc, pure_bind]
    rfl
  | channel t =>
    simp only [layout, List.mapM_cons, mapM_number, Fields.item, Format.read, read,
      ChannelRow.read, Fields.rowId, map_eq_bind, bind_assoc, pure_bind]
    rfl

section Part

variable (columns : List String) (row : List (Option Value))

def Sound (part : String × Format) : Prop :=
  ∃ i, FirstColumn columns part.1 i ∧ part.2.Accepts (cellAt row i)

def Holds (part : String × Format) (item : Item) : Prop :=
  item.1 = part.2 ∧ ∃ i, FirstColumn columns part.1 i ∧ item.1.Takes (cellAt row i) item.2

inductive Fault (table : String) (part : String × Format) : Misconfiguration → Prop
  | noColumn (h : ¬ HasColumn columns part.1) : Fault table part (.noField part.1 table)
  | refused {i : Nat} {cause : Misconfiguration} (hi : FirstColumn columns part.1 i)
      (h : Format.Refuses part.1 table part.2 (cellAt row i) cause) : Fault table part cause

end Part

section Reading

variable {f : Fields} {row : List (Option Value)} {part : String × Format}

theorem Fields.get_of_firstColumn (hrow : f.result.rows[f.row]? = some row) {name : String}
    {i : Nat} (hi : FirstColumn f.result.columns name i) : f.get name = .ok (cellAt row i) := by
  rw [get, ResultSet.column?_eq_some_iff.mpr hi]
  simp only [ResultSet.cell, hrow, Option.bind_some]
  rfl

theorem Fields.get_of_no_column {name : String} (h : ¬ HasColumn f.result.columns name) :
    f.get name = .error (.configuration (.noField name f.table)) := by
  rw [get, ResultSet.column?_eq_none_iff.mpr h]

theorem Format.read_of_get_error (format : Format) {column : String} {e : Error}
    (h : f.get column = .error e) : format.read f column = .error e := by
  cases format <;>
    simp [read, Fields.integer32, Fields.integer, Fields.float, Fields.text, Fields.optionalText,
      Fields.typed, Fields.required, h, bind, Except.bind]

theorem item_of_read {x : part.2.Content} (h : part.2.read f part.1 = .ok x) :
    f.item part = .ok ⟨part.2, x⟩ := by
  rw [Fields.item, h]
  rfl

theorem item_eq_ok_iff (hrow : f.result.rows[f.row]? = some row) {item : Item} :
    f.item part = .ok item ↔ Holds f.result.columns row part item := by
  constructor
  · intro hitem
    by_cases hcolumn : HasColumn f.result.columns part.1
    · obtain ⟨i, hi⟩ := hasColumn_iff.mp hcolumn
      rw [Fields.item] at hitem
      cases hread : part.2.read f part.1 with
      | error e =>
        rw [hread] at hitem
        cases hitem
      | ok x =>
        rw [hread] at hitem
        obtain rfl := Except.ok.inj hitem
        exact ⟨rfl, i, hi, (Format.read_eq_ok_iff (Fields.get_of_firstColumn hrow hi)).mp hread⟩
    · rw [Fields.item, part.2.read_of_get_error (Fields.get_of_no_column hcolumn)] at hitem
      cases hitem
  · rintro ⟨hformat, i, hi, htakes⟩
    obtain ⟨format, x⟩ := item
    obtain rfl : format = part.2 := hformat
    exact item_of_read ((Format.read_eq_ok_iff (Fields.get_of_firstColumn hrow hi)).mpr htakes)

theorem exists_item_iff (hrow : f.result.rows[f.row]? = some row) :
    (∃ item, f.item part = .ok item) ↔ Sound f.result.columns row part := by
  simp only [item_eq_ok_iff hrow]
  constructor
  · rintro ⟨⟨format, x⟩, hformat, i, hi, htakes⟩
    obtain rfl : format = part.2 := hformat
    exact ⟨i, hi, Format.accepts_iff.mpr ⟨x, htakes⟩⟩
  · rintro ⟨i, hi, haccepts⟩
    obtain ⟨x, htakes⟩ := Format.accepts_iff.mp haccepts
    exact ⟨⟨part.2, x⟩, rfl, i, hi, htakes⟩

theorem item_of_fault (hrow : f.result.rows[f.row]? = some row) {cause : Misconfiguration}
    (h : Fault f.result.columns row f.table part cause) :
    f.item part = .error (.configuration cause) := by
  rw [Fields.item]
  cases h with
  | noColumn hcolumn =>
    rw [part.2.read_of_get_error (Fields.get_of_no_column hcolumn)]
    rfl
  | refused hi hrefuses =>
    rw [Format.read_of_refuses (Fields.get_of_firstColumn hrow hi) hrefuses]
    rfl

theorem exists_fault {columns : List String} (table : String) (h : ¬ Sound columns row part) :
    ∃ cause, Fault columns row table part cause := by
  by_cases hcolumn : HasColumn columns part.1
  · obtain ⟨i, hi⟩ := hasColumn_iff.mp hcolumn
    have hrefused : ¬ part.2.Accepts (cellAt row i) := fun haccepts => h ⟨i, hi, haccepts⟩
    obtain ⟨cause, hcause⟩ := Format.exists_refuses part.1 table hrefused
    exact ⟨cause, .refused hi hcause⟩
  · exact ⟨_, .noColumn hcolumn⟩

theorem item_eq_error_iff (hrow : f.result.rows[f.row]? = some row) {e : Error} :
    f.item part = .error e ↔
      ∃ cause, Fault f.result.columns row f.table part cause ∧ e = .configuration cause := by
  constructor
  · intro hitem
    have hunsound : ¬ Sound f.result.columns row part := by
      intro hsound
      obtain ⟨item, hok⟩ := (exists_item_iff hrow).mpr hsound
      rw [hok] at hitem
      cases hitem
    obtain ⟨cause, hcause⟩ := exists_fault f.table hunsound
    rw [item_of_fault hrow hcause] at hitem
    exact ⟨cause, hcause, (Except.error.inj hitem).symm⟩
  · rintro ⟨cause, hcause, rfl⟩
    exact item_of_fault hrow hcause

theorem RowType.read_eq_ok_iff {r : RowType} (hrow : f.result.rows[f.row]? = some row)
    {object : r.Row} :
    r.read f = .ok object ↔
      List.Forall₂ (Holds f.result.columns row) (r.layout f.key) (r.items object) := by
  rw [← map_eq_ok_iff r.items_injective, read_items, mapM_eq_ok_iff]
  simp only [item_eq_ok_iff hrow]

theorem RowType.exists_read_iff (r : RowType) (hrow : f.result.rows[f.row]? = some row) :
    (∃ object, r.read f = .ok object) ↔
      ∀ part ∈ r.layout f.key, Sound f.result.columns row part := by
  have hread : (∃ object, r.read f = .ok object) ↔
      ∃ items, (r.layout f.key).mapM f.item = .ok items := by
    rw [← read_items]
    cases r.read f <;> simp [Except.map]
  rw [hread, exists_mapM_iff]
  simp only [exists_item_iff hrow]

theorem RowType.read_eq_error_iff (r : RowType) (hrow : f.result.rows[f.row]? = some row)
    {e : Error} :
    r.read f = .error e ↔
      ∃ cause, FirstFailure (Sound f.result.columns row) (Fault f.result.columns row f.table)
        (r.layout f.key) cause ∧ e = .configuration cause := by
  rw [← map_eq_error_iff, read_items, mapM_eq_error_iff, ← firstFailure_wrapped_iff]
  exact firstFailure_congr (fun _ => exists_item_iff hrow) fun _ _ => item_eq_error_iff hrow

end Reading

theorem Format.read_congr (format : Format) {f f' : Fields} {column : String}
    (hget : f.get column = f'.get column) (htable : f.table = f'.table) :
    format.read f column = format.read f' column := by
  cases format <;>
    simp only [read, Fields.integer32, Fields.integer, Fields.float, Fields.text,
      Fields.optionalText, Fields.typed, Fields.required, hget, htable]

theorem RowType.read_congr (r : RowType) {f f' : Fields} (hkey : f.key = f'.key)
    (htable : f.table = f'.table) (h : ∀ part ∈ r.layout f.key, f.get part.1 = f'.get part.1) :
    r.read f = r.read f' := by
  rw [← map_eq_map_iff r.items_injective, read_items, read_items, ← hkey]
  apply mapM_congr
  intro part hpart
  rw [Fields.item, Fields.item, part.2.read_congr (h part hpart) htable]

namespace Table

/-- The object has in each of its fields what the row has in the column of the field. -/
def Shows (t : Table) (r : RowType) (columns : List String) (row : List (Option Value))
    (object : r.Row) : Prop :=
  List.Forall₂ (Holds columns row) (r.layout t.key) (r.items object)

def SoundRow (t : Table) (r : RowType) (columns : List String) (row : List (Option Value)) :
    Prop :=
  ∀ part ∈ r.layout t.key, Sound columns row part

/-- What is wrong with a row is what is wrong with the first column that is not sound in it. -/
def FaultyRow (t : Table) (r : RowType) (columns : List String) (row : List (Option Value)) :
    Misconfiguration → Prop :=
  FirstFailure (Sound columns row) (Fault columns row t.name) (r.layout t.key)

/-- What a result set is read as. Without rows nothing is looked at. Then the configured fields
come first, in their order, and the rows after them, in theirs. -/
inductive Makes (t : Table) (r : RowType) (result : ResultSet) :
    Except Error (Collection r.Row) → Prop
  | nothing (h : result.rows = []) : Makes t r result (.ok {})
  | noColumn {before after : List String} {field : String} (h : result.rows ≠ [])
      (hfields : t.fields = before ++ field :: after)
      (hbefore : ∀ name ∈ before, HasColumn result.columns name)
      (hfield : ¬ HasColumn result.columns field) :
      Makes t r result (.error (.configuration (.fieldNotColumn field t.name)))
  | fault {cause : Misconfiguration} (h : result.rows ≠ [])
      (hfields : ∀ name ∈ t.fields, HasColumn result.columns name)
      (hfault : FirstFailure (t.SoundRow r result.columns) (t.FaultyRow r result.columns)
        result.rows cause) : Makes t r result (.error (.configuration cause))
  | objects {objects : List r.Row} (h : result.rows ≠ [])
      (hfields : ∀ name ∈ t.fields, HasColumn result.columns name)
      (hrows : List.Forall₂ (t.Shows r result.columns) result.rows objects) :
      Makes t r result (.ok { rows := objects })

variable {t : Table} {r : RowType} {result : ResultSet}

def readRow (t : Table) (r : RowType) (columns : List String) (row : List (Option Value)) :
    Except Error r.Row :=
  r.read (t.fieldsOf ⟨columns, [row]⟩ 0)

theorem read_fieldsOf {i : Nat} {row : List (Option Value)} (hrow : result.rows[i]? = some row) :
    r.read (t.fieldsOf result i) = t.readRow r result.columns row := by
  rw [readRow]
  refine r.read_congr rfl rfl fun part _ => ?_
  by_cases hcolumn : HasColumn result.columns part.1
  · obtain ⟨j, hj⟩ := hasColumn_iff.mp hcolumn
    rw [Fields.get_of_firstColumn (f := t.fieldsOf result i) hrow hj]
    exact (Fields.get_of_firstColumn (f := t.fieldsOf ⟨result.columns, [row]⟩ 0) rfl hj).symm
  · rw [Fields.get_of_no_column (f := t.fieldsOf result i) hcolumn]
    exact (Fields.get_of_no_column (f := t.fieldsOf ⟨result.columns, [row]⟩ 0) hcolumn).symm

theorem read_rows : (List.range result.rows.length).mapM (fun i => r.read (t.fieldsOf result i)) =
    result.rows.mapM (t.readRow r result.columns) := by
  rw [List.range_eq_range']
  apply mapM_range'
  intro i row hrow
  rw [Nat.zero_add, read_fieldsOf hrow]

theorem readRow_eq_ok_iff {columns : List String} {row : List (Option Value)} {object : r.Row} :
    t.readRow r columns row = .ok object ↔ t.Shows r columns row object :=
  RowType.read_eq_ok_iff rfl

theorem exists_readRow_iff {columns : List String} {row : List (Option Value)} :
    (∃ object, t.readRow r columns row = .ok object) ↔ t.SoundRow r columns row :=
  r.exists_read_iff rfl

theorem readRow_eq_error_iff {columns : List String} {row : List (Option Value)} {e : Error} :
    t.readRow r columns row = .error e ↔
      ∃ cause, t.FaultyRow r columns row cause ∧ e = .configuration cause :=
  r.read_eq_error_iff rfl

section Rows

variable {columns : List String} {rows : List (List (Option Value))}

theorem readRows_eq_ok_iff {objects : List r.Row} :
    rows.mapM (t.readRow r columns) = .ok objects ↔
      List.Forall₂ (t.Shows r columns) rows objects := by
  simp only [mapM_eq_ok_iff, readRow_eq_ok_iff]

theorem readRows_eq_error_iff {e : Error} :
    rows.mapM (t.readRow r columns) = .error e ↔
      ∃ cause, FirstFailure (t.SoundRow r columns) (t.FaultyRow r columns) rows cause ∧
        e = .configuration cause := by
  rw [mapM_eq_error_iff, ← firstFailure_wrapped_iff]
  exact firstFailure_congr (fun _ => exists_readRow_iff) fun _ _ => readRow_eq_error_iff

end Rows

theorem missingField?_eq_some_iff {field : String} :
    t.missingField? result = some field ↔
      ¬ HasColumn result.columns field ∧ ∃ before after, t.fields = before ++ field :: after ∧
        ∀ name ∈ before, HasColumn result.columns name := by
  rw [missingField?, List.find?_eq_some_iff_append]
  simp only [Option.isNone_iff_eq_none, ResultSet.column?_eq_none_iff, Option.not_isNone,
    ResultSet.isSome_column?_iff, exists_and_right]

theorem missingField?_eq_none_iff :
    t.missingField? result = none ↔ ∀ name ∈ t.fields, HasColumn result.columns name := by
  rw [missingField?, List.find?_eq_none]
  simp [ResultSet.column?_eq_none_iff]

theorem read_of_no_rows (h : result.rows = []) : t.read r result = .ok {} := by
  simp [read, h]

theorem read_of_missing {field : String} (h : result.rows ≠ [])
    (hmissing : t.missingField? result = some field) :
    t.read r result = .error (.configuration (.fieldNotColumn field t.name)) := by
  simp [read, h, hmissing]

theorem read_of_fields (h : result.rows ≠ [])
    (hfields : ∀ name ∈ t.fields, HasColumn result.columns name) :
    t.read r result = (result.rows.mapM (t.readRow r result.columns)).map fun rows => { rows } := by
  simp only [read, List.isEmpty_iff, h, if_false, missingField?_eq_none_iff.mpr hfields, read_rows]
  rw [map_eq_bind]

/-- A result set is read as one thing only, which is this one. -/
theorem read_eq_iff {o : Except Error (Collection r.Row)} :
    t.read r result = o ↔ t.Makes r result o := by
  constructor
  · rintro rfl
    by_cases h : result.rows = []
    · rw [read_of_no_rows h]
      exact .nothing h
    cases hmissing : t.missingField? result with
    | some field =>
      rw [read_of_missing h hmissing]
      obtain ⟨hfield, before, after, hfields, hbefore⟩ := missingField?_eq_some_iff.mp hmissing
      exact .noColumn h hfields hbefore hfield
    | none =>
      have hfields := missingField?_eq_none_iff.mp hmissing
      rw [read_of_fields h hfields]
      cases hrows : result.rows.mapM (t.readRow r result.columns) with
      | ok objects => exact .objects h hfields (readRows_eq_ok_iff.mp hrows)
      | error e =>
        obtain ⟨cause, hfault, rfl⟩ := readRows_eq_error_iff.mp hrows
        exact .fault h hfields hfault
  · intro hmakes
    cases hmakes with
    | nothing h => exact read_of_no_rows h
    | noColumn h hfields hbefore hfield =>
      exact read_of_missing h (missingField?_eq_some_iff.mpr ⟨hfield, _, _, hfields, hbefore⟩)
    | fault h hfields hfault =>
      rw [read_of_fields h hfields, readRows_eq_error_iff.mpr ⟨_, hfault, rfl⟩]
      rfl
    | objects h hfields hrows =>
      rw [read_of_fields h hfields, readRows_eq_ok_iff.mpr hrows]
      rfl

theorem exists_read_iff :
    (∃ c, t.read r result = .ok c) ↔ result.rows = [] ∨
      (∀ name ∈ t.fields, HasColumn result.columns name) ∧
        ∀ row ∈ result.rows, t.SoundRow r result.columns row := by
  by_cases h : result.rows = []
  · simp [h, read_of_no_rows h]
  by_cases hfields : ∀ name ∈ t.fields, HasColumn result.columns name
  · have hread : (∃ c, t.read r result = .ok c) ↔
        ∃ objects, result.rows.mapM (t.readRow r result.columns) = .ok objects := by
      rw [read_of_fields h hfields]
      cases result.rows.mapM (t.readRow r result.columns) <;> simp [Except.map]
    rw [hread, exists_mapM_iff]
    simp only [exists_readRow_iff, h, false_or]
    exact (and_iff_right hfields).symm
  · cases hmissing : t.missingField? result with
    | none => exact absurd (missingField?_eq_none_iff.mp hmissing) hfields
    | some field => simp [read_of_missing h hmissing, h, hfields]

/-- Reading a result set is exact: what it makes is told by the first fault that it has, or
else field by field by the cells of its rows. It succeeds just if there are no rows, or all
configured fields are columns and all rows are sound. -/
theorem read_exact (t : Table) (r : RowType) (result : ResultSet) :
    (∀ o, t.read r result = o ↔ t.Makes r result o) ∧
      ((∃ c, t.read r result = .ok c) ↔ result.rows = [] ∨
        (∀ name ∈ t.fields, HasColumn result.columns name) ∧
          ∀ row ∈ result.rows, t.SoundRow r result.columns row) :=
  ⟨fun _ => read_eq_iff, exists_read_iff⟩

example :
    (⟨"bad_channels", "id", .channel .badChannel, "", "", ["ecal_channel_id"]⟩ : Table).read
        (.channel .badChannel)
        ⟨["ID", "id", "ecal_channel_id"],
         [[some (.integer 1), some (.text "x"), some (.integer 5)], [some (.integer 2)]]⟩ =
      .error (.configuration (.nullField "ecal_channel_id" "bad_channels")) := by
  rfl

end Table

end RunConditions
