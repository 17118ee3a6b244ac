import RunConditions.Proofs.InsertText
import RunConditions.Table

/-!
# The wording of statements

Every statement is put together from fixed words, names, decimal numbers and
literals. Whatever a text is, it stands in a literal of its own: read from the
quote that opens it, the literal ends at the quote that has been written to
close it. So a text can change neither the words nor the names nor the numbers
around it.
-/

set_option autoImplicit false

namespace RunConditions.Sql

/-- A part of a statement. -/
inductive Piece where
  | fixed (words : String)
  | name (text : String)
  | number (n : Int)
  | free (text : String)

def Piece.chars : Piece → List Char
  | fixed words => words.toList
  | name text => text.toList
  | number n => (toString n).toList
  | free text => '\'' :: (escapeChars text.toList ++ ['\''])

def Piece.ofOption : Option String → Piece
  | some text => free text
  | none => fixed "NULL"

def assemble (pieces : List Piece) : List Char :=
  pieces.flatMap Piece.chars

def separated (groups : List (List Piece)) : List Piece :=
  [.fixed ", "].intercalate groups

namespace Statement

def tuplePieces (collection : Int) (row : List String) : List Piece :=
  .fixed "(" :: .number collection :: .fixed ", " ::
    (separated (row.map fun word => [.free word]) ++ [.fixed ")"])

def recordPieces (r : Record) : List Piece :=
  [.number r.runStart, .number r.runEnd, .free r.name, .free r.table, .number r.collection,
   .ofOption r.tag, .ofOption r.createdBy, .ofOption r.notes]

def pieces : Statement → List Piece
  | selectAll table order =>
    [.fixed "SELECT * FROM ", .name table, .fixed " ORDER BY ", .name order]
  | selectCollection table collection =>
    [.fixed "SELECT * FROM ", .name table, .fixed (" WHERE " ++ collectionColumn ++ " = "),
     .number collection]
  | nextCollection table =>
    [.fixed ("SELECT MAX(" ++ collectionColumn ++ ")+1 FROM "), .name table]
  | countCollection table collection =>
    [.fixed "SELECT COUNT(*) FROM ", .name table, .fixed (" WHERE " ++ collectionColumn ++ " = "),
     .number collection]
  | insertRows table key collection columns rows =>
    .fixed "INSERT INTO " :: .name table :: .fixed (" (" ++ collectionColumn ++ ", ") ::
      (separated (columns.map fun column => [.name column]) ++ .fixed ") VALUES " ::
        (separated (rows.map (tuplePieces collection)) ++ [.fixed " RETURNING ", .name key]))
  | insertRecord table key record =>
    .fixed "INSERT INTO " :: .name table ::
      .fixed (" (" ++ ", ".intercalate Record.columns ++ ") VALUES (") ::
      (separated ((recordPieces record).map fun piece => [piece]) ++
        [.fixed ") RETURNING ", .name key])

end Statement

@[simp]
theorem assemble_nil : assemble [] = [] := rfl

@[simp]
theorem assemble_cons (piece : Piece) (pieces : List Piece) :
    assemble (piece :: pieces) = piece.chars ++ assemble pieces := rfl

@[simp]
theorem assemble_append (pieces pieces' : List Piece) :
    assemble (pieces ++ pieces') = assemble pieces ++ assemble pieces' :=
  List.flatMap_append

theorem literal_chars (text : String) : (literal text).toList = (Piece.free text).chars := by
  simp [literal, escape, Piece.chars]

theorem optionalLiteral_chars (o : Option String) :
    (optionalLiteral o).toList = (Piece.ofOption o).chars := by
  cases o with
  | none => rfl
  | some text => exact literal_chars text

theorem separated_cons_cons (group next : List Piece) (groups : List (List Piece)) :
    separated (group :: next :: groups) = group ++ .fixed ", " :: separated (next :: groups) :=
  rfl

theorem assemble_separated {α : Type} (texts : List α) (group : α → List Piece) (text : α → String)
    (h : ∀ a ∈ texts, assemble (group a) = (text a).toList) :
    assemble (separated (texts.map group)) = (", ".intercalate (texts.map text)).toList := by
  induction texts with
  | nil => rfl
  | cons a texts ih =>
    obtain ⟨ha, htexts⟩ := List.forall_mem_cons.mp h
    cases texts with
    | nil =>
      show assemble (group a ++ []) = (text a).toList
      rw [List.append_nil, ha]
    | cons next texts =>
      have htail := ih htexts
      simp only [List.map_cons] at htail ⊢
      rw [separated_cons_cons, String.intercalate_cons_cons, assemble_append, assemble_cons, ha,
        htail, String.toList_append, String.toList_append, List.append_assoc]
      rfl

theorem assemble_tuplePieces (collection : Int) (row : List String) :
    assemble (Statement.tuplePieces collection row) =
      (Statement.tuple collection row).toList := by
  have hrow := assemble_separated row (fun word => [.free word]) literal fun word _ => by
    rw [literal_chars, assemble_cons, assemble_nil, List.append_nil]
  show _ = ("(" ++ toString collection ++ ", " ++ ", ".intercalate (row.map literal) ++ ")").toList
  simp only [Statement.tuplePieces, assemble_cons, assemble_append, assemble_nil, hrow,
    Piece.chars, String.toList_append, List.append_assoc, List.append_nil]

theorem recordPieces_chars (r : Record) :
    (Statement.recordPieces r).map (fun piece => String.ofList piece.chars) =
      Statement.recordValues r := by
  have hnumber : ∀ n, String.ofList (Piece.number n).chars = toString n :=
    fun n => String.ofList_toList
  have hfree : ∀ text, String.ofList (Piece.free text).chars = literal text := by
    intro text
    rw [← literal_chars, String.ofList_toList]
  have hoption : ∀ o, String.ofList (Piece.ofOption o).chars = optionalLiteral o := by
    intro o
    rw [← optionalLiteral_chars, String.ofList_toList]
  simp only [Statement.recordPieces, Statement.recordValues, List.map_cons, List.map_nil, hnumber,
    hfree, hoption]

theorem assemble_pieces (statement : Statement) :
    assemble statement.pieces = statement.text.toList := by
  cases statement with
  | selectAll table order =>
    show _ = ("SELECT * FROM " ++ table ++ " ORDER BY " ++ order).toList
    simp [Statement.pieces, Piece.chars]
  | selectCollection table collection =>
    show _ = ("SELECT * FROM " ++ table ++ " WHERE " ++ collectionColumn ++ " = " ++
      toString collection).toList
    simp [Statement.pieces, Piece.chars]
  | nextCollection table =>
    show _ = ("SELECT MAX(" ++ collectionColumn ++ ")+1 FROM " ++ table).toList
    simp [Statement.pieces, Piece.chars]
  | countCollection table collection =>
    show _ = ("SELECT COUNT(*) FROM " ++ table ++ " WHERE " ++ collectionColumn ++ " = " ++
      toString collection).toList
    simp [Statement.pieces, Piece.chars]
  | insertRows table key collection columns rows =>
    have hcolumns := assemble_separated columns (fun column => [.name column]) id fun column _ => by
      rw [assemble_cons, assemble_nil, List.append_nil]
      rfl
    have hrows := assemble_separated rows (Statement.tuplePieces collection)
      (Statement.tuple collection) fun row _ => assemble_tuplePieces collection row
    rw [List.map_id] at hcolumns
    show _ = ("INSERT INTO " ++ table ++ " (" ++ collectionColumn ++ ", " ++
      ", ".intercalate columns ++ ") VALUES " ++
      ", ".intercalate (rows.map (Statement.tuple collection)) ++ " RETURNING " ++ key).toList
    simp only [Statement.pieces, assemble_cons, assemble_append, assemble_nil, hcolumns, hrows,
      Piece.chars, String.toList_append, List.append_assoc, List.append_nil]
  | insertRecord table key record =>
    have hvalues := assemble_separated (Statement.recordPieces record) (fun piece => [piece])
      (fun piece => String.ofList piece.chars) fun piece _ => by
        rw [assemble_cons, assemble_nil, List.append_nil, String.toList_ofList]
    rw [recordPieces_chars] at hvalues
    show _ = ("INSERT INTO " ++ table ++ " (" ++ ", ".intercalate Record.columns ++
      ") VALUES (" ++ ", ".intercalate (Statement.recordValues record) ++ ") RETURNING " ++
      key).toList
    simp only [Statement.pieces, assemble_cons, assemble_append, assemble_nil, hvalues,
      Piece.chars, String.toList_append, List.append_assoc, List.append_nil]

def Unquoted (pieces : List Piece) : Prop :=
  (assemble pieces).head? ≠ some '\''

/-- No literal is followed by another quote. -/
def Spaced : List Piece → Prop
  | [] => True
  | .free _ :: rest => Unquoted rest ∧ Spaced rest
  | .fixed _ :: rest | .name _ :: rest | .number _ :: rest => Spaced rest

def Leads (pieces : List Piece) : Prop :=
  ∀ rest, Unquoted rest → Spaced rest → Spaced (pieces ++ rest)

theorem leads_single (piece : Piece) : Leads [piece] := by
  intro rest hunquoted hspaced
  cases piece with
  | free text => exact ⟨hunquoted, hspaced⟩
  | fixed words => exact hspaced
  | name text => exact hspaced
  | number n => exact hspaced

theorem unquoted_comma (rest : List Piece) : Unquoted (.fixed ", " :: rest) := by
  simp [Unquoted, Piece.chars]

theorem leads_separated {groups : List (List Piece)} (h : ∀ group ∈ groups, Leads group) :
    Leads (separated groups) := by
  induction groups with
  | nil => exact fun _ _ hspaced => hspaced
  | cons group groups ih =>
    obtain ⟨hgroup, hgroups⟩ := List.forall_mem_cons.mp h
    intro rest hunquoted hspaced
    cases groups with
    | nil =>
      show Spaced ((group ++ []) ++ rest)
      rw [List.append_nil]
      exact hgroup rest hunquoted hspaced
    | cons next groups =>
      rw [separated_cons_cons, List.append_assoc]
      exact hgroup _ (unquoted_comma _) (ih hgroups rest hunquoted hspaced)

theorem leads_singles (pieces : List Piece) :
    Leads (separated (pieces.map fun piece => [piece])) := by
  apply leads_separated
  intro group hgroup
  obtain ⟨piece, -, rfl⟩ := List.mem_map.mp hgroup
  exact leads_single piece

theorem leads_tuplePieces (collection : Int) (row : List String) :
    Leads (Statement.tuplePieces collection row) := by
  intro rest _ hspaced
  have hrow := leads_singles (row.map Piece.free)
  rw [List.map_map] at hrow
  show Spaced ((separated _ ++ [.fixed ")"]) ++ rest)
  rw [List.append_assoc]
  exact hrow _ (by simp [Unquoted, Piece.chars]) hspaced

theorem spaced_pieces (statement : Statement) : Spaced statement.pieces := by
  cases statement with
  | selectAll table order => exact trivial
  | selectCollection table collection => exact trivial
  | nextCollection table => exact trivial
  | countCollection table collection => exact trivial
  | insertRows table key collection columns rows =>
    have hcolumns := leads_singles (columns.map Piece.name)
    rw [List.map_map] at hcolumns
    have hrows : Leads (separated (rows.map (Statement.tuplePieces collection))) := by
      apply leads_separated
      intro group hgroup
      obtain ⟨row, -, rfl⟩ := List.mem_map.mp hgroup
      exact leads_tuplePieces collection row
    apply hcolumns
    · simp [Unquoted, Piece.chars]
    · exact hrows _ (by simp [Unquoted, Piece.chars]) trivial
  | insertRecord table key record =>
    exact leads_singles (Statement.recordPieces record) _ (by simp [Unquoted, Piece.chars]) trivial

theorem Spaced.unquoted {before after : List Piece} {text : String}
    (h : Spaced (before ++ .free text :: after)) : Unquoted after := by
  induction before with
  | nil => exact h.1
  | cons piece before ih =>
    cases piece with
    | free other => exact ih h.2
    | fixed words => exact ih h
    | name text => exact ih h
    | number n => exact ih h

/-- A literal is read from its first quote up to the one that has been written to
close it, whatever its text is, and nothing of the text is left over. -/
theorem literal_closes {statement : Statement} {before after : List Piece} {text : String}
    (h : statement.pieces = before ++ .free text :: after) :
    statement.text.toList =
        assemble before ++ '\'' :: (escapeChars text.toList ++ '\'' :: assemble after) ∧
      readLiteral (escapeChars text.toList ++ '\'' :: assemble after) =
        some (text.toList, assemble after) := by
  constructor
  · rw [← assemble_pieces, h]
    simp [Piece.chars]
  · apply readLiteral_escapeChars
    have hspaced := spaced_pieces statement
    rw [h] at hspaced
    exact hspaced.unquoted

def IsDecimal (cs : List Char) : Prop :=
  ∃ digits : List Char, digits ≠ [] ∧ (∀ d ∈ digits, d.isDigit = true) ∧
    (cs = digits ∨ cs = '-' :: digits)

theorem number_decimal (n : Int) : IsDecimal (Piece.number n).chars := by
  have hdigits : ∀ k : Nat, Nat.toDigits 10 k ≠ [] ∧ ∀ d ∈ Nat.toDigits 10 k, d.isDigit = true :=
    fun k =>
      ⟨Nat.toDigits_ne_nil, fun d hd => Nat.isDigit_of_mem_toDigits (by decide) (by decide) hd⟩
  cases n with
  | ofNat k =>
    refine ⟨Nat.toDigits 10 k, (hdigits k).1, (hdigits k).2, Or.inl ?_⟩
    show k.repr.toList = _
    rw [Nat.toList_repr]
  | negSucc k =>
    refine ⟨Nat.toDigits 10 (k + 1), (hdigits (k + 1)).1, (hdigits (k + 1)).2, Or.inr ?_⟩
    show ("-" ++ (k + 1).repr).toList = _
    rw [String.toList_append, Nat.toList_repr]
    rfl

/-- The statements with which conditions are looked up and recorded, each about
one of these tables and ordered by or asking for its key. -/
inductive About (ts : Tables) : Statement → Prop where
  | all {t : Table} (ht : t ∈ ts.list) : About ts (.selectAll t.name t.key)
  | collection {t : Table} (ht : t ∈ ts.list) (id : Int) : About ts (.selectCollection t.name id)
  | next {t : Table} (ht : t ∈ ts.list) : About ts (.nextCollection t.name)
  | count {t : Table} (ht : t ∈ ts.list) (id : Int) : About ts (.countCollection t.name id)
  | record {t : Table} (ht : t ∈ ts.list) (r : Record) : About ts (.insertRecord t.name t.key r)

theorem mem_separated {piece : Piece} {groups : List (List Piece)} (h : piece ∈ separated groups) :
    piece = .fixed ", " ∨ ∃ group ∈ groups, piece ∈ group := by
  induction groups with
  | nil => cases h
  | cons group groups ih =>
    cases groups with
    | nil => exact Or.inr ⟨group, List.mem_cons_self, by simpa [separated] using h⟩
    | cons next groups =>
      rw [separated_cons_cons, List.mem_append, List.mem_cons] at h
      rcases h with hgroup | hcomma | hrest
      · exact Or.inr ⟨group, List.mem_cons_self, hgroup⟩
      · exact Or.inl hcomma
      · rcases ih hrest with hcomma | ⟨group', hmem, hpiece⟩
        · exact Or.inl hcomma
        · exact Or.inr ⟨group', List.mem_cons_of_mem group hmem, hpiece⟩

theorem name_notMem_recordPieces (r : Record) (name : String) :
    .name name ∉ separated ((Statement.recordPieces r).map fun piece => [piece]) := by
  intro h
  rcases mem_separated h with hcomma | ⟨group, hgroup, hname⟩
  · cases hcomma
  · obtain ⟨piece, hpiece, rfl⟩ := List.mem_map.mp hgroup
    obtain rfl := List.mem_singleton.mp hname
    have hoption : ∀ o, .name name ≠ Piece.ofOption o := by
      intro o
      cases o <;> simp [Piece.ofOption]
    simp [Statement.recordPieces, hoption] at hpiece

def vocabulary : List String :=
  ["SELECT * FROM ", " ORDER BY ", " WHERE " ++ collectionColumn ++ " = ",
   "SELECT MAX(" ++ collectionColumn ++ ")+1 FROM ", "SELECT COUNT(*) FROM ", "INSERT INTO ",
   " (" ++ ", ".intercalate Record.columns ++ ") VALUES (", ", ", "NULL", ") RETURNING "]

theorem mem_vocabulary_of_recordPieces {r : Record} {words : String}
    (h : .fixed words ∈ separated ((Statement.recordPieces r).map fun piece => [piece])) :
    words ∈ vocabulary := by
  have hoption : ∀ o, .fixed words = Piece.ofOption o → words = "NULL" := by
    intro o ho
    cases o with
    | none => exact Piece.fixed.inj ho
    | some text => cases ho
  rcases mem_separated h with hcomma | ⟨group, hgroup, hwords⟩
  · rw [Piece.fixed.inj hcomma]
    simp [vocabulary]
  · obtain ⟨piece, hpiece, rfl⟩ := List.mem_map.mp hgroup
    obtain rfl := List.mem_singleton.mp hwords
    simp only [Statement.recordPieces, List.mem_cons, reduceCtorEq, List.not_mem_nil, or_false,
      false_or] at hpiece
    have hnull : words = "NULL" := by
      rcases hpiece with ho | ho | ho
      · exact hoption _ ho
      · exact hoption _ ho
      · exact hoption _ ho
    rw [hnull]
    simp [vocabulary]

theorem About.words {ts : Tables} {statement : Statement} (h : About ts statement)
    {words : String} (hwords : .fixed words ∈ statement.pieces) : words ∈ vocabulary := by
  cases h with
  | all =>
    simp only [Statement.pieces, List.mem_cons, Piece.fixed.injEq, reduceCtorEq,
      List.not_mem_nil, or_false, false_or] at hwords
    rcases hwords with rfl | rfl <;> simp [vocabulary]
  | collection =>
    simp only [Statement.pieces, List.mem_cons, Piece.fixed.injEq, reduceCtorEq,
      List.not_mem_nil, or_false, false_or] at hwords
    rcases hwords with rfl | rfl <;> simp [vocabulary]
  | next =>
    simp only [Statement.pieces, List.mem_cons, Piece.fixed.injEq, reduceCtorEq,
      List.not_mem_nil, or_false] at hwords
    simp [vocabulary, hwords]
  | count =>
    simp only [Statement.pieces, List.mem_cons, Piece.fixed.injEq, reduceCtorEq,
      List.not_mem_nil, or_false, false_or] at hwords
    rcases hwords with rfl | rfl <;> simp [vocabulary]
  | record ht r =>
    simp only [Statement.pieces, List.mem_cons, List.mem_append, Piece.fixed.injEq, reduceCtorEq,
      List.not_mem_nil, or_false, false_or] at hwords
    rcases hwords with rfl | rfl | hwords | rfl
    · simp [vocabulary]
    · simp [vocabulary]
    · exact mem_vocabulary_of_recordPieces hwords
    · simp [vocabulary]

theorem About.names {ts : Tables} {statement : Statement} (h : About ts statement) {name : String}
    (hname : .name name ∈ statement.pieces) : ∃ t ∈ ts.list, name = t.name ∨ name = t.key := by
  cases h with
  | @all t ht =>
    refine ⟨t, ht, ?_⟩
    simpa [Statement.pieces] using hname
  | @collection t ht id =>
    refine ⟨t, ht, Or.inl ?_⟩
    simpa [Statement.pieces] using hname
  | @next t ht =>
    refine ⟨t, ht, Or.inl ?_⟩
    simpa [Statement.pieces] using hname
  | @count t ht id =>
    refine ⟨t, ht, Or.inl ?_⟩
    simpa [Statement.pieces] using hname
  | @record t ht r =>
    refine ⟨t, ht, ?_⟩
    simpa [Statement.pieces, name_notMem_recordPieces] using hname

/-- A statement of one of these shapes, in which each name is that of a configured
table or its key, each number is decimal, all words are fixed, and every other
text is in a literal that closes just where it has been closed. -/
structure Worded (ts : Tables) (statement : Statement) : Prop where
  about : About ts statement
  text : statement.text.toList = assemble statement.pieces
  words : ∀ words, .fixed words ∈ statement.pieces → words ∈ vocabulary
  names : ∀ name, .name name ∈ statement.pieces → ∃ t ∈ ts.list, name = t.name ∨ name = t.key
  numbers : ∀ n, .number n ∈ statement.pieces → IsDecimal (Piece.number n).chars
  literals : ∀ before text after, statement.pieces = before ++ .free text :: after →
    statement.text.toList =
        assemble before ++ '\'' :: (escapeChars text.toList ++ '\'' :: assemble after) ∧
      readLiteral (escapeChars text.toList ++ '\'' :: assemble after) =
        some (text.toList, assemble after)

theorem About.worded {ts : Tables} {statement : Statement} (h : About ts statement) :
    Worded ts statement where
  about := h
  text := (assemble_pieces statement).symm
  words _ := h.words
  names _ := h.names
  numbers n _ := number_decimal n
  literals _ _ _ := literal_closes

end RunConditions.Sql
