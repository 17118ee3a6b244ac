import RunConditions.Proofs.Insertion
import RunConditions.Proofs.RowsText

/-!
# Rows out of an insert

An insert of rows is refused for want of columns, for want of rows, or for the
first row that has not one value for every column, and for nothing else. A
reader that knows the table, the key and the columns takes the rows out of the
text of every other one, each with its collection id and as it was, whatever is
in its texts. So two inserts into the same columns that read the same are one.
-/

set_option autoImplicit false

namespace RunConditions.Sql

def newRow? : List (Option Value) → Option (Int × List String)
  | some (.integer collection) :: cells =>
    (cells.mapM fun cell : Option Value => cell.bind Value.text?).map (collection, ·)
  | _ => none

/-- Reads the rows of an insert into known columns. Nothing may stand behind the key. -/
def readNewRows (table key : String) (columns : List String) (text : String) :
    Option (List (Int × List String)) := do
  let names := ", ".intercalate (collectionColumn :: columns)
  let rest ←
    ("INSERT INTO " ++ table ++ " (" ++ names ++ ") VALUES ").toList.isPrefixOf? text.toList
  let (tuples, rest) ← readTuples (columns.length + 1) rest.length rest
  if rest = (" RETURNING " ++ key).toList then tuples.mapM newRow? else none

theorem newRow?_rowCells (collection : Int) (row : List String) :
    newRow? (rowCells collection row) = some (collection, row) := by
  have htexts : (row.map fun word => some (Value.text word)).mapM
      (fun cell => cell.bind Value.text?) = some row := by
    rw [List.mapM_map]
    exact List.mapM_pure.trans (congrArg some (List.map_id row))
  rw [rowCells, newRow?, htexts]
  rfl

theorem mapM_newRow? (collection : Int) (rows : List (List String)) :
    (rows.map (rowCells collection)).mapM newRow? = some (rows.map (collection, ·)) := by
  have hrows : newRow? ∘ rowCells collection = fun row => pure (collection, row) :=
    funext (newRow?_rowCells collection)
  rw [List.mapM_map, hrows]
  exact List.mapM_pure

theorem readNewRows_insertRows (table key : String) (collection : Int) {columns : List String}
    {rows : List (List String)} (hcolumns : columns ≠ []) (hrows : rows ≠ [])
    (hwidths : ∀ row ∈ rows, row.length = columns.length) :
    readNewRows table key columns (Statement.insertRows table key collection columns rows).text =
      some (rows.map (collection, ·)) := by
  have htext : (Statement.insertRows table key collection columns rows).text.toList =
      ("INSERT INTO " ++ table ++ " (" ++ ", ".intercalate (collectionColumn :: columns) ++
        ") VALUES ").toList ++
        ((", ".intercalate (rows.map (Statement.tuple collection))).toList ++
          (" RETURNING " ++ key).toList) := by
    rw [insertRows_text _ _ _ _ _ hcolumns]
    simp only [String.toList_append, List.append_assoc]
  have hmost : rows.length ≤ ((", ".intercalate (rows.map (Statement.tuple collection))).toList ++
      (" RETURNING " ++ key).toList).length := by
    have := length_le_intercalate collection rows
    rw [List.length_append]
    omega
  have hwidth : columns.length ≠ 0 := by simpa using hcolumns
  have hkey : (" RETURNING " ++ key).toList.head? ≠ some ',' := by simp
  have hread := readTuples_intercalate collection hwidth hrows hwidths hkey _ hmost
  simp only [readNewRows, htext, isPrefixOf?_append, Option.bind_eq_bind, Option.bind_some, hread,
    if_true, mapM_newRow?]

namespace Statement

/-- Why rows cannot be inserted. Of several rows of a wrong width the first one counts. -/
inductive Refused (table : String) (columns : List String) (rows : List (List String)) :
    Error → Prop where
  | noColumns (hcolumns : columns = []) :
      Refused table columns rows (.configuration (.noColumns table))
  | noRows (hcolumns : columns ≠ []) (hrows : rows = []) :
      Refused table columns rows (.configuration (.noRows table))
  | ragged (hcolumns : columns ≠ []) {before behind : List (List String)} {row : List String}
      (hrows : rows = before ++ row :: behind)
      (hbefore : ∀ r ∈ before, r.length = columns.length) (hrow : row.length ≠ columns.length) :
      Refused table columns rows
        (.configuration (.raggedRow (before.length + 1) row.length columns.length))

theorem raggedRow?_append {columns n : Nat} {before : List (List String)}
    (hbefore : ∀ r ∈ before, r.length = columns) (rest : List (List String)) :
    raggedRow? columns n (before ++ rest) = raggedRow? columns (n + before.length) rest := by
  induction before generalizing n with
  | nil => rfl
  | cons row before ih =>
    obtain ⟨hrow, hbefore⟩ := List.forall_mem_cons.mp hbefore
    rw [List.cons_append, raggedRow?, if_pos hrow, ih hbefore, List.length_cons,
      Nat.add_right_comm, Nat.add_assoc]

theorem exists_of_raggedRow?_eq_some {columns n : Nat} {rows : List (List String)}
    {ragged : Nat × Nat} (h : raggedRow? columns n rows = some ragged) :
    ∃ before row behind, rows = before ++ row :: behind ∧ (∀ r ∈ before, r.length = columns) ∧
      row.length ≠ columns ∧ ragged = (n + before.length, row.length) := by
  induction rows generalizing n with
  | nil => cases h
  | cons row rows ih =>
    rw [raggedRow?] at h
    split at h
    · rename_i hrow
      obtain ⟨before, other, behind, rfl, hbefore, hother, rfl⟩ := ih h
      refine ⟨row :: before, other, behind, rfl, List.forall_mem_cons.mpr ⟨hrow, hbefore⟩, hother,
        ?_⟩
      rw [List.length_cons, Nat.add_assoc, Nat.add_comm 1]
    · rename_i hrow
      obtain rfl := Option.some.inj h
      exact ⟨[], row, rows, rfl, by simp, hrow, rfl⟩

theorem insert_eq_error_iff {table key : String} {collection : Int} {columns : List String}
    {rows : List (List String)} {e : Error} :
    insert table key collection columns rows = .error e ↔ Refused table columns rows e := by
  constructor
  · intro h
    rw [insert] at h
    split at h
    · rename_i hcolumns
      obtain rfl := Except.error.inj h
      exact .noColumns (List.isEmpty_iff.mp hcolumns)
    rename_i hcolumns
    rw [List.isEmpty_iff] at hcolumns
    split at h
    · rename_i hrows
      obtain rfl := Except.error.inj h
      exact .noRows hcolumns (List.isEmpty_iff.mp hrows)
    split at h
    · rename_i hragged
      obtain rfl := Except.error.inj h
      obtain ⟨before, row, behind, hrows, hbefore, hrow, heq⟩ :=
        exists_of_raggedRow?_eq_some hragged
      obtain ⟨rfl, rfl⟩ := Prod.mk.inj heq
      rw [Nat.add_comm 1]
      exact .ragged hcolumns hrows hbefore hrow
    · cases h
  · rintro (hcolumns | ⟨hcolumns, hrows⟩ | ⟨hcolumns, hrows, hbefore, hrow⟩)
    · simp [insert, hcolumns]
    · simp [insert, hcolumns, hrows]
    · subst hrows
      simp only [insert, List.isEmpty_iff, hcolumns, if_false, List.append_eq_nil_iff, reduceCtorEq,
        and_false, raggedRow?_append hbefore, raggedRow?, hrow, Nat.add_comm 1]

/-- Rows can be inserted just if there are columns and rows and each row has one
value for every column, and otherwise it is said what is wrong. All that is
inserted can be read from the text, in which no two inserts are alike. -/
theorem insert_recovered (table key : String) (collection : Int) (columns : List String)
    (rows : List (List String)) :
    ((∃ statement, insert table key collection columns rows = .ok statement) ↔
      columns ≠ [] ∧ rows ≠ [] ∧ ∀ row ∈ rows, row.length = columns.length) ∧
    (∀ e, insert table key collection columns rows = .error e ↔ Refused table columns rows e) ∧
    (∀ statement, insert table key collection columns rows = .ok statement →
      readNewRows table key columns statement.text = some (rows.map (collection, ·))) ∧
    ∀ collection' rows' statement statement',
      insert table key collection columns rows = .ok statement →
      insert table key collection' columns rows' = .ok statement' →
      statement.text = statement'.text → collection = collection' ∧ rows = rows' := by
  have hread : ∀ {collection rows statement},
      insert table key collection columns rows = .ok statement →
      readNewRows table key columns statement.text = some (rows.map (collection, ·)) := by
    intro collection rows statement h
    obtain ⟨hcolumns, hrows, hwidths, rfl⟩ := insert_eq_ok_iff.mp h
    exact readNewRows_insertRows table key collection hcolumns hrows hwidths
  refine ⟨⟨?_, ?_⟩, fun e => insert_eq_error_iff, fun statement => hread, ?_⟩
  · rintro ⟨statement, h⟩
    obtain ⟨hcolumns, hrows, hwidths, -⟩ := insert_eq_ok_iff.mp h
    exact ⟨hcolumns, hrows, hwidths⟩
  · rintro ⟨hcolumns, hrows, hwidths⟩
    exact ⟨_, insert_eq_ok_iff.mpr ⟨hcolumns, hrows, hwidths, rfl⟩⟩
  · intro collection' rows' statement statement' h h' htext
    have hsame : rows.map (collection, ·) = rows'.map (collection', ·) := by
      apply Option.some.inj
      rw [← hread h, ← hread h', htext]
    -- There is a row, and it bears the collection id.
    obtain ⟨row, rest, rfl⟩ := List.exists_cons_of_ne_nil (insert_eq_ok_iff.mp h).2.1
    obtain ⟨row', rest', rfl⟩ := List.exists_cons_of_ne_nil (insert_eq_ok_iff.mp h').2.1
    obtain ⟨hfirst, -⟩ := List.cons.inj hsame
    obtain rfl := (Prod.mk.inj hfirst).1
    exact ⟨rfl, (List.map_inj_right fun _ _ h => (Prod.mk.inj h).2).mp hsame⟩

def awkwardColumns : List String :=
  ["value", "it's) VALUES ("]

def awkwardRows : List (List String) :=
  [["it's", "', '"], ["", "\n\\'), (7, ''"]]

theorem awkwardRows_recovered :
    (insert "gains" "id" (-5) awkwardColumns awkwardRows).toOption.map text =
        some ("INSERT INTO gains (collection_id, value, it's) VALUES () VALUES " ++
          "(-5, 'it''s', ''', '''), (-5, '', '\n\\''), (7, ''''') RETURNING id") ∧
      ∃ statement, insert "gains" "id" (-5) awkwardColumns awkwardRows = .ok statement ∧
        readNewRows "gains" "id" awkwardColumns statement.text =
          some [(-5, ["it's", "', '"]), (-5, ["", "\n\\'), (7, ''"])] := by
  have hrecovered := insert_recovered "gains" "id" (-5) awkwardColumns awkwardRows
  obtain ⟨statement, h⟩ := hrecovered.1.mpr (by decide)
  exact ⟨by decide +kernel, statement, h, hrecovered.2.2.1 statement h⟩

end Statement
end RunConditions.Sql
