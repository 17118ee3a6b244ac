import RunConditions.Sql.Statement

/-!
# Reading an insert

A database that knows a table and its key reads the text of an insert of one
row: the names of columns in parentheses, and for each of them a decimal
integer, a text between single quotes in which a quote is written twice, or the
word for no value. What it reads from the insert of a conditions record is the
record, whatever its texts are.
-/

set_option autoImplicit false

namespace RunConditions.Sql

def readLiteral : List Char → Option (List Char × List Char)
  | [] => none
  | '\'' :: '\'' :: rest => (readLiteral rest).map fun (s, after) => ('\'' :: s, after)
  | '\'' :: rest => some ([], rest)
  | c :: rest => (readLiteral rest).map fun (s, after) => (c :: s, after)

def readDigits (cs : List Char) : Option (Nat × List Char) :=
  if (cs.takeWhile Char.isDigit).isEmpty then none
  else some (Nat.ofDigitChars 10 (cs.takeWhile Char.isDigit) 0, cs.dropWhile Char.isDigit)

def readValue : List Char → Option (Option Value × List Char)
  | '\'' :: rest => (readLiteral rest).map fun (s, after) => (some (.text (String.ofList s)), after)
  | 'N' :: 'U' :: 'L' :: 'L' :: rest => some (none, rest)
  | '-' :: rest => (readDigits rest).map fun (n, after) => (some (.integer (-n)), after)
  | cs => (readDigits cs).map fun (n, after) => (some (.integer n), after)

def readValues : Nat → List Char → Option (List (Option Value) × List Char)
  | 0, cs => some ([], cs)
  | 1, cs => (readValue cs).map fun (v, rest) => ([v], rest)
  | n + 2, cs =>
    match readValue cs with
    | some (v, ',' :: ' ' :: rest) =>
      (readValues (n + 1) rest).map fun (vs, after) => (v :: vs, after)
    | _ => none

def splitNames : List Char → List (List Char)
  | [] => [[]]
  | ',' :: ' ' :: rest => [] :: splitNames rest
  | c :: rest =>
    match splitNames rest with
    | [] => [[c]]
    | name :: names => (c :: name) :: names

/-- The columns and values of an insert of one row into a table. -/
def readInsert (table key text : String) : Option (List (String × Option Value)) := do
  let rest ← ("INSERT INTO " ++ table ++ " (").toList.isPrefixOf? text.toList
  let names := splitNames (rest.takeWhile (· != ')'))
  let rest ← ") VALUES (".toList.isPrefixOf? (rest.dropWhile (· != ')'))
  let (values, rest) ← readValues names.length rest
  if rest = (") RETURNING " ++ key).toList then return (names.map String.ofList).zip values
  else none

@[simp]
theorem isPrefixOf?_append (start rest : List Char) :
    start.isPrefixOf? (start ++ rest) = some rest := by
  induction start with
  | nil => rfl
  | cons c start ih =>
    show (if c == c then start.isPrefixOf? (start ++ rest) else none) = some rest
    rw [if_pos (beq_self_eq_true c), ih]

section Mark

variable {mark : Char} {body rest : List Char} (hbody : mark ∉ body)
include hbody

theorem others_of_notMem : ∀ c ∈ body, (c != mark) = true :=
  fun _ hc => bne_iff_ne.mpr (ne_of_mem_of_not_mem hc hbody)

variable (hrest : rest.head? = some mark)
include hrest

theorem takeWhile_mark : (body ++ rest).takeWhile (· != mark) = body := by
  obtain ⟨after, rfl⟩ := List.head?_eq_some_iff.mp hrest
  simp [List.takeWhile_append_of_pos (others_of_notMem hbody)]

theorem dropWhile_mark : (body ++ rest).dropWhile (· != mark) = rest := by
  obtain ⟨after, rfl⟩ := List.head?_eq_some_iff.mp hrest
  simp [List.dropWhile_append_of_pos (others_of_notMem hbody)]

end Mark

theorem readLiteral_escapeChars (s rest : List Char) (h : rest.head? ≠ some '\'') :
    readLiteral (escapeChars s ++ '\'' :: rest) = some (s, rest) := by
  induction s with
  | nil =>
    cases rest with
    | nil => rfl
    | cons c rest =>
      have hc : c ≠ '\'' := fun hc => h (by rw [hc]; rfl)
      show readLiteral ('\'' :: c :: rest) = _
      rw [readLiteral]
      rintro r heq
      exact hc (List.cons.inj heq).1
  | cons c s ih =>
    by_cases hc : c = '\''
    · subst hc
      show readLiteral ('\'' :: '\'' :: (escapeChars s ++ '\'' :: rest)) = _
      rw [readLiteral, ih]
      rfl
    · have hcons : escapeChars (c :: s) = c :: escapeChars s := by
        simp [escapeChars, hc]
      rw [hcons, List.cons_append, readLiteral, ih]
      · rfl
      · intro r hquote
        exact absurd hquote hc
      · exact hc

theorem readDigits_toDigits (n : Nat) (rest : List Char)
    (h : ∀ c ∈ rest.head?, c.isDigit = false) :
    readDigits (Nat.toDigits 10 n ++ rest) = some (n, rest) := by
  have hdigits : ∀ c ∈ Nat.toDigits 10 n, c.isDigit = true :=
    fun c hc => Nat.isDigit_of_mem_toDigits (by decide) (by decide) hc
  have hrest : rest.takeWhile Char.isDigit = [] ∧ rest.dropWhile Char.isDigit = rest := by
    cases rest with
    | nil => exact ⟨rfl, rfl⟩
    | cons c rest => simp [h c rfl]
  rw [readDigits, List.takeWhile_append_of_pos hdigits, List.dropWhile_append_of_pos hdigits,
    hrest.1, hrest.2, List.append_nil, Nat.ofDigitChars_ten_toDigits, if_neg]
  simp [Nat.toDigits_ne_nil]

theorem readValue_of_isDigit {c : Char} (h : c.isDigit = true) (cs : List Char) :
    readValue (c :: cs) =
      (readDigits (c :: cs)).map fun (n, after) => (some (.integer n), after) := by
  rw [readValue]
  · rintro rest ⟨rfl, -⟩
    cases h
  · rintro rest ⟨rfl, -⟩
    cases h
  · rintro rest ⟨rfl, -⟩
    cases h

/-- What follows a value cannot be taken for a part of it. -/
def EndsValue (rest : List Char) : Prop :=
  ∃ c cs, rest = c :: cs ∧ (c = ',' ∨ c = ')')

/-- A text that is read as a value wherever it stands. -/
def Writes (text : String) (v : Option Value) : Prop :=
  ∀ rest, EndsValue rest → readValue (text.toList ++ rest) = some (v, rest)

theorem literal_writes (s : String) : Writes (literal s) (some (.text s)) := by
  rintro rest ⟨c, cs, rfl, hc⟩
  have htext : (literal s).toList ++ c :: cs =
      '\'' :: (escapeChars s.toList ++ '\'' :: c :: cs) := by
    simp [literal, escape]
  have hquote : (c :: cs).head? ≠ some '\'' := by
    rcases hc with rfl | rfl <;> simp
  rw [htext, readValue, readLiteral_escapeChars _ _ hquote]
  simp

theorem optionalLiteral_writes (o : Option String) :
    Writes (optionalLiteral o) (o.map .text) := by
  cases o with
  | none =>
    intro rest _
    rfl
  | some s => exact literal_writes s

theorem toString_writes (n : Int) : Writes (toString n) (some (.integer n)) := by
  rintro rest ⟨c, cs, rfl, hc⟩
  have hend : ∀ d ∈ (c :: cs).head?, d.isDigit = false := by
    rintro d hd
    obtain rfl := Option.some.inj hd
    rcases hc with rfl | rfl <;> rfl
  cases n with
  | ofNat n =>
    have hread := readDigits_toDigits n (c :: cs) hend
    obtain ⟨d, ds, hds⟩ := List.exists_cons_of_ne_nil (Nat.toDigits_ne_nil (n := n) (b := 10))
    have hd : d.isDigit = true := by
      refine Nat.isDigit_of_mem_toDigits (b := 10) (n := n) (by decide) (by decide) ?_
      rw [hds]
      exact List.mem_cons_self
    show readValue (n.repr.toList ++ c :: cs) = _
    rw [Nat.toList_repr, hds, List.cons_append, readValue_of_isDigit hd, ← List.cons_append, ← hds,
      hread]
    rfl
  | negSucc n =>
    show readValue (("-" ++ (n + 1).repr).toList ++ c :: cs) = _
    rw [String.toList_append, Nat.toList_repr, List.append_assoc]
    show (readDigits (Nat.toDigits 10 (n + 1) ++ c :: cs)).map _ = _
    rw [readDigits_toDigits _ _ hend]
    rfl

theorem Writes.value_eq {text : String} {v v' : Option Value} (h : Writes text v)
    (h' : Writes text v') : v = v' := by
  have hend : EndsValue [')'] := ⟨_, _, rfl, Or.inr rfl⟩
  have hread := (h _ hend).symm.trans (h' _ hend)
  exact congrArg Prod.fst (Option.some.inj hread)

theorem readValues_intercalate (entries : List (String × Option Value))
    (h : ∀ e ∈ entries, Writes e.1 e.2) {rest : List Char} (hrest : EndsValue rest) :
    readValues entries.length ((", ".intercalate (entries.map Prod.fst)).toList ++ rest) =
      some (entries.map Prod.snd, rest) := by
  induction entries with
  | nil => rfl
  | cons e tail ih =>
    have he := h e (by simp)
    cases tail with
    | nil =>
      show (readValue (e.1.toList ++ rest)).map _ = _
      rw [he rest hrest]
      rfl
    | cons e' tail =>
      have htail := ih fun x hx => h x (List.mem_cons_of_mem e hx)
      have hends : EndsValue (',' :: ' ' ::
          ((", ".intercalate ((e' :: tail).map Prod.fst)).toList ++ rest)) :=
        ⟨_, _, rfl, Or.inl rfl⟩
      have htext : (", ".intercalate ((e :: e' :: tail).map Prod.fst)).toList ++ rest =
          e.1.toList ++ ',' :: ' ' ::
            ((", ".intercalate ((e' :: tail).map Prod.fst)).toList ++ rest) := by
        simp only [List.map_cons, String.intercalate_cons_cons, String.toList_append,
          List.append_assoc]
        rfl
      rw [htext, List.length_cons, List.length_cons, readValues, he _ hends]
      rw [List.length_cons] at htail
      simp only [htail]
      rfl

def recordCells (r : Record) : List (Option Value) :=
  [some (.integer r.runStart), some (.integer r.runEnd), some (.text r.name),
   some (.text r.table), some (.integer r.collection), r.tag.map .text, r.createdBy.map .text,
   r.notes.map .text]

theorem recordValues_writes (r : Record) :
    ∀ e ∈ (Statement.recordValues r).zip (recordCells r), Writes e.1 e.2 := by
  simp only [Statement.recordValues, recordCells, List.zip_cons_cons, List.zip_nil_right,
    List.forall_mem_cons]
  exact ⟨toString_writes _, toString_writes _, literal_writes _, literal_writes _,
    toString_writes _, optionalLiteral_writes _, optionalLiteral_writes _,
    optionalLiteral_writes _, by simp⟩

theorem columns_of_text :
    ')' ∉ (", ".intercalate Record.columns).toList ∧
      splitNames (", ".intercalate Record.columns).toList = Record.columns.map String.toList ∧
      (Record.columns.map String.toList).map String.ofList = Record.columns := by
  decide

theorem insertRecord_text (table key : String) (r : Record) :
    (Statement.insertRecord table key r).text.toList =
      ("INSERT INTO " ++ table ++ " (").toList ++
        ((", ".intercalate Record.columns).toList ++ (") VALUES (".toList ++
          ((", ".intercalate (Statement.recordValues r)).toList ++
            (") RETURNING " ++ key).toList))) := by
  show ("INSERT INTO " ++ table ++ " (" ++ ", ".intercalate Record.columns ++ ") VALUES (" ++
    ", ".intercalate (Statement.recordValues r) ++ ") RETURNING " ++ key).toList = _
  simp only [String.toList_append, List.append_assoc]

theorem readInsert_insertRecord (table key : String) (r : Record) :
    readInsert table key (Statement.insertRecord table key r).text =
      some (Record.columns.zip (recordCells r)) := by
  obtain ⟨hplain, hsplit, hnames⟩ := columns_of_text
  have hend : EndsValue (") RETURNING " ++ key).toList :=
    ⟨')', " RETURNING ".toList ++ key.toList, by rw [String.toList_append]; rfl, Or.inr rfl⟩
  have hvalues : readValues Record.columns.length
      ((", ".intercalate (Statement.recordValues r)).toList ++ (") RETURNING " ++ key).toList) =
      some (recordCells r, (") RETURNING " ++ key).toList) :=
    readValues_intercalate ((Statement.recordValues r).zip (recordCells r))
      (recordValues_writes r) hend
  have hclosed : ∀ rest, (") VALUES (".toList ++ rest).head? = some ')' := fun _ => rfl
  rw [readInsert, insertRecord_text]
  simp only [isPrefixOf?_append, Option.bind_eq_bind, Option.bind_some,
    takeWhile_mark hplain (hclosed _), dropWhile_mark hplain (hclosed _), hsplit, List.length_map,
    hvalues, if_true, hnames]
  rfl

end RunConditions.Sql
