import RunConditions.Proofs.InsertText

/-!
# Reading an insert of several rows

A database that knows a table reads the text of an insert of rows: the names of
columns in parentheses, and then the values of each row in parentheses of their
own. What it reads from the insert of the rows of a data file is these rows,
each under the collection id, if the columns have plain names.
-/

set_option autoImplicit false

namespace RunConditions.Sql

/-- A letter, a digit, an underscore, a dollar sign, or anything beyond ASCII. -/
def isPlain (c : Char) : Bool :=
  c.isAlphanum || c == '_' || c == '$' || 0x80 ≤ c.toNat

def PlainName (name : String) : Prop :=
  name.toList.all isPlain = true

instance (name : String) : Decidable (PlainName name) :=
  inferInstanceAs (Decidable (name.toList.all isPlain = true))

theorem PlainName.collectionColumn : PlainName collectionColumn := by decide

theorem PlainName.notMem {name : String} (h : PlainName name) {c : Char} (hc : isPlain c = false) :
    c ∉ name.toList := by
  intro hmem
  have hplain := List.all_eq_true.mp h c hmem
  rw [hc] at hplain
  cases hplain

def readTuple (n : Nat) : List Char → Option (List (Option Value) × List Char)
  | '(' :: rest =>
    match readValues n rest with
    | some (values, ')' :: after) => some (values, after)
    | _ => none
  | _ => none

def readTuples (n : Nat) : Nat → List Char → Option (List (List (Option Value)) × List Char)
  | 0, _ => none
  | most + 1, cs =>
    match readTuple n cs with
    | none => none
    | some (values, ',' :: ' ' :: rest) =>
      (readTuples n most rest).map fun (tuples, after) => (values :: tuples, after)
    | some (values, after) => some ([values], after)

/-- What an insert of rows gives: the columns, and the values of each row. -/
structure NewRows where
  names : List String
  tuples : List (List (Option Value))
  deriving DecidableEq

def readRows (table text : String) : Option (NewRows × String) := do
  let rest ← ("INSERT INTO " ++ table ++ " (").toList.isPrefixOf? text.toList
  let names := splitNames (rest.takeWhile (· != ')'))
  let rest ← ") VALUES ".toList.isPrefixOf? (rest.dropWhile (· != ')'))
  let (tuples, rest) ← readTuples names.length rest.length rest
  let key ← " RETURNING ".toList.isPrefixOf? rest
  return (⟨names.map String.ofList, tuples⟩, String.ofList key)

theorem splitNames_cons {c : Char} (hc : c ≠ ',') (cs : List Char) :
    splitNames (c :: cs) =
      match splitNames cs with
      | [] => [[c]]
      | name :: names => (c :: name) :: names :=
  splitNames.eq_3 c cs fun _ hcomma _ => hc hcomma

theorem splitNames_append {name : List Char} (hname : ',' ∉ name) (cs : List Char) :
    splitNames (name ++ ',' :: ' ' :: cs) = name :: splitNames cs := by
  induction name with
  | nil => rfl
  | cons c name ih =>
    obtain ⟨hc, hname⟩ := not_or.mp (mt List.mem_cons.mpr hname)
    rw [List.cons_append, splitNames_cons (Ne.symm hc), ih hname]

theorem splitNames_single {name : List Char} (hname : ',' ∉ name) : splitNames name = [name] := by
  induction name with
  | nil => rfl
  | cons c name ih =>
    obtain ⟨hc, hname⟩ := not_or.mp (mt List.mem_cons.mpr hname)
    rw [splitNames_cons (Ne.symm hc), ih hname]

theorem splitNames_intercalate {name : String} {names : List String}
    (h : ∀ n ∈ name :: names, ',' ∉ n.toList) :
    splitNames (", ".intercalate (name :: names)).toList = (name :: names).map String.toList := by
  induction names generalizing name with
  | nil => exact splitNames_single (h name List.mem_cons_self)
  | cons next names ih =>
    obtain ⟨hname, hnames⟩ := List.forall_mem_cons.mp h
    have hjoined : (", ".intercalate (name :: next :: names)).toList =
        name.toList ++ ',' :: ' ' :: (", ".intercalate (next :: names)).toList := by
      simp only [String.intercalate_cons_cons, String.toList_append, List.append_assoc]
      rfl
    rw [hjoined, splitNames_append hname, ih hnames]
    rfl

theorem not_mem_intercalate {c : Char} (hc : c ∉ (", " : String).toList) {names : List String}
    (h : ∀ n ∈ names, c ∉ n.toList) : c ∉ (", ".intercalate names).toList := by
  induction names with
  | nil => simp
  | cons name names ih =>
    obtain ⟨hname, hnames⟩ := List.forall_mem_cons.mp h
    cases names with
    | nil => exact hname
    | cons next names =>
      simp only [String.intercalate_cons_cons, String.toList_append, List.mem_append, not_or]
      exact ⟨⟨hname, hc⟩, ih hnames⟩

def rowCells (collection : Int) (row : List String) : List (Option Value) :=
  some (.integer collection) :: row.map fun word => some (.text word)

theorem readTuple_tuple (collection : Int) {row : List String} (hrow : row ≠ [])
    (rest : List Char) :
    readTuple (row.length + 1) ((Statement.tuple collection row).toList ++ rest) =
      some (rowCells collection row, rest) := by
  have hwrites : ∀ e ∈ (toString collection, some (Value.integer collection)) ::
      row.map fun word => (literal word, some (Value.text word)), Writes e.1 e.2 := by
    simp only [List.forall_mem_cons, List.forall_mem_map]
    exact ⟨toString_writes collection, fun word _ => literal_writes word⟩
  have hend : EndsValue (')' :: rest) := ⟨_, _, rfl, Or.inr rfl⟩
  have hread := readValues_intercalate _ hwrites hend
  simp only [List.length_cons, List.length_map, List.map_cons, List.map_map] at hread
  have htext : (Statement.tuple collection row).toList ++ rest =
      '(' :: ((", ".intercalate (toString collection :: row.map literal)).toList ++
        ')' :: rest) := by
    obtain ⟨word, row, rfl⟩ := List.exists_cons_of_ne_nil hrow
    simp only [Statement.tuple, List.map_cons, String.intercalate_cons_cons, String.toList_append,
      List.append_assoc]
    rfl
  have hmap : (Prod.fst ∘ fun word : String => (literal word, some (Value.text word))) = literal :=
    rfl
  rw [hmap] at hread
  rw [htext, readTuple, hread]
  rfl

theorem readTuples_intercalate (collection : Int) {width : Nat} {rows : List (List String)}
    (hwidth : width ≠ 0) (hrows : rows ≠ []) (h : ∀ row ∈ rows, row.length = width)
    {rest : List Char} (hrest : rest.head? ≠ some ',') (most : Nat) (hmost : rows.length ≤ most) :
    readTuples (width + 1) most
        ((", ".intercalate (rows.map (Statement.tuple collection))).toList ++ rest) =
      some (rows.map (rowCells collection), rest) := by
  induction rows generalizing most with
  | nil => exact absurd rfl hrows
  | cons row rows ih =>
    obtain ⟨most, rfl⟩ : ∃ n, most = n + 1 := Nat.exists_eq_succ_of_ne_zero (by
      simp only [List.length_cons] at hmost
      omega)
    obtain ⟨hrow, hothers⟩ := List.forall_mem_cons.mp h
    have hne : row ≠ [] := by
      rintro rfl
      exact hwidth hrow.symm
    cases rows with
    | nil =>
      -- No comma follows the last tuple, so that the reader stops there.
      have hread := readTuple_tuple collection hne rest
      rw [hrow] at hread
      show readTuples _ _ ((Statement.tuple collection row).toList ++ rest) = _
      rw [readTuples, hread]
      cases rest with
      | nil => rfl
      | cons c rest =>
        have hc : c ≠ ',' := fun hc => hrest (by rw [hc]; rfl)
        split
        · rename_i heq
          cases heq
        · rename_i heq
          cases heq
          exact absurd rfl hc
        · rename_i heq
          cases heq
          rfl
    | cons next rows =>
      have htail := ih (by simp) hothers most (by
        simp only [List.length_cons] at hmost ⊢
        omega)
      have hjoined : (", ".intercalate ((row :: next :: rows).map
            (Statement.tuple collection))).toList ++ rest =
          (Statement.tuple collection row).toList ++ ',' :: ' ' ::
            ((", ".intercalate ((next :: rows).map (Statement.tuple collection))).toList ++
              rest) := by
        simp only [List.map_cons, String.intercalate_cons_cons, String.toList_append,
          List.append_assoc]
        rfl
      have hread := readTuple_tuple collection hne (',' :: ' ' ::
        ((", ".intercalate ((next :: rows).map (Statement.tuple collection))).toList ++ rest))
      rw [hrow] at hread
      rw [hjoined, readTuples, hread]
      simp only [htail]
      rfl

theorem insertRows_text (table key : String) (collection : Int) (columns : List String)
    (rows : List (List String)) (hcolumns : columns ≠ []) :
    (Statement.insertRows table key collection columns rows).text.toList =
      ("INSERT INTO " ++ table ++ " (").toList ++
        ((", ".intercalate (collectionColumn :: columns)).toList ++ (") VALUES ".toList ++
          ((", ".intercalate (rows.map (Statement.tuple collection))).toList ++
            (" RETURNING ".toList ++ key.toList)))) := by
  obtain ⟨column, columns, rfl⟩ := List.exists_cons_of_ne_nil hcolumns
  show ("INSERT INTO " ++ table ++ " (" ++ collectionColumn ++ ", " ++
    ", ".intercalate (column :: columns) ++ ") VALUES " ++
    ", ".intercalate (rows.map (Statement.tuple collection)) ++ " RETURNING " ++ key).toList = _
  simp only [String.intercalate_cons_cons, String.toList_append, List.append_assoc]

theorem length_le_intercalate (collection : Int) (rows : List (List String)) :
    rows.length ≤ (", ".intercalate (rows.map (Statement.tuple collection))).toList.length := by
  induction rows with
  | nil => simp
  | cons row rows ih =>
    have hpositive : 0 < (Statement.tuple collection row).toList.length := by
      simp only [Statement.tuple, String.toList_append, List.length_append]
      show 0 < 1 + _ + _ + _ + _
      omega
    cases rows with
    | nil => exact hpositive
    | cons next rows =>
      simp only [List.map_cons, String.intercalate_cons_cons, String.toList_append,
        List.length_append, List.length_cons] at ih ⊢
      omega

theorem readRows_insertRows (table key : String) (collection : Int) {columns : List String}
    {rows : List (List String)} (hcolumns : columns ≠ []) (hplain : ∀ c ∈ columns, PlainName c)
    (hrows : rows ≠ []) (hwidths : ∀ row ∈ rows, row.length = columns.length) :
    readRows table (Statement.insertRows table key collection columns rows).text =
      some (⟨collectionColumn :: columns, rows.map (rowCells collection)⟩, key) := by
  have hnames : ∀ n ∈ collectionColumn :: columns, PlainName n :=
    List.forall_mem_cons.mpr ⟨.collectionColumn, hplain⟩
  have hsplit := splitNames_intercalate fun n hn => (hnames n hn).notMem (by decide)
  have hplain : ')' ∉ (", ".intercalate (collectionColumn :: columns)).toList :=
    not_mem_intercalate (by decide) fun n hn => (hnames n hn).notMem (by decide)
  have hclosed : ∀ rest, (") VALUES ".toList ++ rest).head? = some ')' := fun _ => rfl
  have hmost : rows.length ≤ ((", ".intercalate (rows.map (Statement.tuple collection))).toList ++
      (" RETURNING ".toList ++ key.toList)).length := by
    have := length_le_intercalate collection rows
    rw [List.length_append]
    omega
  have hwidth : columns.length ≠ 0 := by simpa using hcolumns
  have hkey : (" RETURNING ".toList ++ key.toList).head? ≠ some ',' := by simp
  have hread := readTuples_intercalate collection hwidth hrows hwidths hkey _ hmost
  rw [readRows, insertRows_text _ _ _ _ _ hcolumns]
  simp only [isPrefixOf?_append, Option.bind_eq_bind, Option.bind_some,
    takeWhile_mark hplain (hclosed _), dropWhile_mark hplain (hclosed _), hsplit,
    List.length_map, List.length_cons, hread, List.map_map]
  simp [Function.comp_def]

end RunConditions.Sql
