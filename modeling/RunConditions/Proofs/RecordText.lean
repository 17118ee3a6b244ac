import RunConditions.Proofs.StoredRow

/-!
# Records through the database and back

The insert of a record gives one value for each column of records. A table that
keeps these values, puts a new id under its key and answers with its columns in
any order gives the record back, but for its id. Absent texts, empty texts and
texts that read like a word of the statement come back as what they were.
-/

set_option autoImplicit false

namespace RunConditions

theorem Text.sameLetters_comm (a b : String) : Text.sameLetters a b = Text.sameLetters b a :=
  Bool.beq_comm

def Distinct (columns : List String) : Prop :=
  columns.Pairwise fun a b => Text.sameLetters a b = false

theorem Distinct.perm {columns columns' : List String} (h : Distinct columns)
    (hperm : columns.Perm columns') : Distinct columns' :=
  (hperm.pairwise_iff fun hab => by rwa [Text.sameLetters_comm]).mp h

theorem HasColumn.of_mem {columns : List String} {name : String} (h : name ∈ columns) :
    HasColumn columns name :=
  ⟨name, h, by simp [Text.sameLetters]⟩

namespace Record

theorem distinct_columns {key : String}
    (hkey : ∀ name ∈ columns, Text.sameLetters key name = false) : Distinct (key :: columns) :=
  List.pairwise_cons.mpr ⟨hkey, by decide⟩

theorem read_of_perm {key : String} (hkey : ∀ name ∈ columns, Text.sameLetters key name = false)
    {r : Record} (hr : r.InRange) {cells : List (String × Option Value)}
    (hcells : cells.Perm ((key, some (.integer r.id)) :: columns.zip (Sql.recordCells r)))
    {f : Fields} (hf : f.key = key) (hcolumns : f.result.columns = cells.map Prod.fst)
    (hrow : f.result.rows[f.row]? = some (cells.map Prod.snd)) : Record.read f = .ok r := by
  have hnames : (cells.map Prod.fst).Perm (key :: columns) := hcells.map Prod.fst
  have hgiven := valueIn_given ((distinct_columns hkey).perm hnames.symm)
  apply read_of_storedIn hrow
  · intro name hname
    rw [hf] at hname
    rw [hcolumns]
    exact .of_mem (hnames.mem_iff.mpr hname)
  · rw [hcolumns, hf]
    refine ⟨?_, fun p hp => ?_, hr⟩
    · exact hgiven (key, some (.integer r.id)) (hcells.mem_iff.mpr List.mem_cons_self)
    · exact hgiven p (hcells.mem_iff.mpr (List.mem_cons_of_mem _ hp))

theorem eq_of_recordCells {r r' : Record} (h : Sql.recordCells r = Sql.recordCells r') :
    r' = { r with id := r'.id } := by
  have htext : Function.Injective (Option.map Value.text) :=
    Option.map_injective fun _ _ heq => Value.text.inj heq
  simp only [Sql.recordCells, List.cons.injEq, Option.some.injEq, Value.integer.injEq,
    Value.text.injEq, htext.eq_iff, and_true] at h
  obtain ⟨h1, h2, h3, h4, h5, h6, h7, h8⟩ := h
  cases r'
  simp_all

/-- What is read from the insert of a record has one value for each column, and
from these values with a new id next to them, in whatever order of the columns,
the record is read again with the new id. Inserts that read the same are of
records that differ at most in their ids. -/
theorem insert_read_back (table : String) {key : String}
    (hkey : ∀ name ∈ columns, Text.sameLetters key name = false) {r : Record} (hr : r.InRange) :
    ∃ given, Sql.readInsert table key (Sql.Statement.insertRecord table key r).text = some given ∧
      given.map Prod.fst = columns ∧
      (∀ (id : Int) (cells : List (String × Option Value)) (f : Fields),
        cells.Perm ((key, some (.integer id)) :: given) → f.key = key →
        f.result.columns = cells.map Prod.fst →
        f.result.rows[f.row]? = some (cells.map Prod.snd) →
        Record.read f = .ok { r with id }) ∧
      ∀ r' : Record, (Sql.Statement.insertRecord table key r).text =
        (Sql.Statement.insertRecord table key r').text → r' = { r with id := r'.id } := by
  have hnames : (columns.zip (Sql.recordCells r)).map Prod.fst = columns := rfl
  refine ⟨_, Sql.readInsert_insertRecord table key r, hnames, ?_, ?_⟩
  · intro id cells f hcells hf hcolumns hrow
    exact read_of_perm (r := { r with id }) hkey hr hcells hf hcolumns hrow
  · intro r' htext
    have hread := Sql.readInsert_insertRecord table key r
    rw [htext, Sql.readInsert_insertRecord, Option.some.injEq] at hread
    exact eq_of_recordCells (congrArg (List.map Prod.snd) hread).symm

def awkward : Record where
  id := 0
  runStart := -0x80000000
  runEnd := 0x7fffffff
  name := "it's"
  table := "NULL"
  collection := -7
  createdBy := some "NULL"
  notes := some ""

theorem awkward_read_back :
    (∀ name ∈ columns, Text.sameLetters "record_id" name = false) ∧ awkward.InRange ∧
      (Sql.Statement.insertRecord "conditions" "record_id" awkward).text =
        "INSERT INTO conditions (" ++ ", ".intercalate columns ++ ") VALUES (-2147483648, " ++
          "2147483647, 'it''s', 'NULL', -7, NULL, 'NULL', '') RETURNING record_id" ∧
      (∃ given, Sql.readInsert "conditions" "record_id"
          (Sql.Statement.insertRecord "conditions" "record_id" awkward).text = some given ∧
        ∀ cells, cells = (("record_id", some (.integer 12)) :: given).reverse →
          Record.read
              { table := "conditions", key := "record_id", row := 0
                result := ⟨cells.map Prod.fst, [cells.map Prod.snd]⟩ } =
            .ok { awkward with id := 12 }) ∧
      (Sql.Statement.insertRecord "conditions" "record_id" awkward).text ≠
        (Sql.Statement.insertRecord "conditions" "record_id"
          { awkward with tag := some "NULL" }).text := by
  have hkey : ∀ name ∈ columns, Text.sameLetters "record_id" name = false := by decide
  have hrange : awkward.InRange := ⟨by decide, by decide⟩
  have hwritten : (Sql.Statement.insertRecord "conditions" "record_id" awkward).text =
      "INSERT INTO conditions (" ++ ", ".intercalate columns ++ ") VALUES (-2147483648, " ++
        "2147483647, 'it''s', 'NULL', -7, NULL, 'NULL', '') RETURNING record_id" := by
    decide +kernel
  obtain ⟨given, hread, -, hback, hsame⟩ := insert_read_back "conditions" hkey hrange
  have hdiffers : (Sql.Statement.insertRecord "conditions" "record_id" awkward).text ≠
      (Sql.Statement.insertRecord "conditions" "record_id"
        { awkward with tag := some "NULL" }).text := by
    intro htext
    have htag := congrArg Record.tag (hsame _ htext)
    cases htag
  refine ⟨hkey, hrange, hwritten, ⟨given, hread, ?_⟩, hdiffers⟩
  rintro cells rfl
  exact hback 12 _ _ (List.reverse_perm _) rfl rfl rfl

end Record
end RunConditions
