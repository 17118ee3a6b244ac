import RunConditions.DataFile
import RunConditions.Proofs.TextLines

/-!
# Layouts of data files

Words are read from a line just if it consists of them and of white space
around them, some between any two. A data file is read as just those columns
and rows that it is laid out in: the columns on its first line, the rows on the
lines after it, and any number of blank lines among them.
-/

set_option autoImplicit false

namespace RunConditions

namespace Text

variable {cs rest gap line : List Char} {w : String} {ws : List String}

structure Unbroken (w : String) : Prop where
  nonempty : w ≠ ""
  dense : ∀ c ∈ w.toList, isBlank c = false

/-- A line that consists of these words with white space around them. Two words do not touch. -/
inductive Spaced : List String → List Char → Prop
  | gap {gap : List Char} (hgap : Blank gap) : Spaced [] gap
  | word {gap rest : List Char} {w : String} {ws : List String} (hgap : Blank gap)
      (hw : Unbroken w) (hrest : ∀ c ∈ rest.head?, isBlank c = true) (h : Spaced ws rest) :
      Spaced (w :: ws) (gap ++ w.toList ++ rest)

theorem Spaced.unbroken (h : Spaced ws line) : ∀ w ∈ ws, Unbroken w := by
  induction h with
  | gap => simp
  | word _ hw _ _ ih => exact List.forall_mem_cons.mpr ⟨hw, ih⟩

theorem words_nil : words [] = [] := by
  simp [words, List.splitOnP_nil]

theorem words_append_cons {c : Char} (hc : isBlank c = true) (cs rest : List Char) :
    words (cs ++ c :: rest) = words cs ++ words rest := by
  rw [words, List.splitOnP_append_cons cs rest hc, List.filter_append]
  rfl

theorem words_gap_append (hgap : Blank gap) (cs : List Char) : words (gap ++ cs) = words cs := by
  induction gap with
  | nil => rfl
  | cons c gap ih =>
    obtain ⟨hc, hrest⟩ := List.forall_mem_cons.mp hgap
    rw [List.cons_append, ← List.nil_append (c :: (gap ++ cs)), words_append_cons hc, words_nil,
      List.nil_append, ih hrest]

theorem words_of_blank (hgap : Blank gap) : words gap = [] := by
  rw [← List.append_nil gap, words_gap_append hgap, words_nil]

theorem words_append_gap (hgap : Blank gap) (cs : List Char) : words (cs ++ gap) = words cs := by
  cases gap with
  | nil => rw [List.append_nil]
  | cons c gap =>
    obtain ⟨hc, hrest⟩ := List.forall_mem_cons.mp hgap
    rw [words_append_cons hc, words_of_blank hrest, List.append_nil]

theorem words_of_unbroken (hw : Unbroken w) : words w.toList = [w.toList] := by
  rw [words, List.splitOnP_eq_singleton hw.dense]
  simp [hw.nonempty]

theorem words_unbroken_append (hw : Unbroken w) (hrest : ∀ c ∈ rest.head?, isBlank c = true) :
    words (w.toList ++ rest) = w.toList :: words rest := by
  cases rest with
  | nil => rw [List.append_nil, words_of_unbroken hw, words_nil]
  | cons c rest =>
    have hc : isBlank c = true := hrest c rfl
    rw [words_append_cons hc, words_of_unbroken hw, ← List.nil_append (c :: rest),
      words_append_cons hc, words_nil]
    rfl

theorem exists_spaced (line : List Char) : ∃ ws, Spaced ws line := by
  induction line with
  | nil => exact ⟨[], .gap blank_nil⟩
  | cons c cs ih =>
    obtain ⟨ws, h⟩ := ih
    by_cases hc : isBlank c = true
    · cases h with
      | gap hgap => exact ⟨[], .gap (List.forall_mem_cons.mpr ⟨hc, hgap⟩)⟩
      | word hgap hw hrest h =>
        exact ⟨_, .word (List.forall_mem_cons.mpr ⟨hc, hgap⟩) hw hrest h⟩
    · rw [Bool.not_eq_true] at hc
      -- A character that stands alone so far, in front of white space or of the end.
      have halone : ∀ {ws : List String}, (∀ d ∈ cs.head?, isBlank d = true) → Spaced ws cs →
          Spaced (String.ofList [c] :: ws) (c :: cs) := by
        intro ws hhead hspaced
        have hletter : Unbroken (String.ofList [c]) := ⟨by simp, by simpa using hc⟩
        simpa using Spaced.word blank_nil hletter hhead hspaced
      cases h with
      | gap hgap => exact ⟨_, halone (fun d hd => hgap d (List.mem_of_mem_head? hd)) (.gap hgap)⟩
      | @word gap rest w ws hgap hw hrest h =>
        cases gap with
        | nil =>
          have hlonger : Unbroken (String.ofList (c :: w.toList)) :=
            ⟨by simp, by simpa using ⟨hc, hw.dense⟩⟩
          have hspaced := Spaced.word blank_nil hlonger hrest h
          exact ⟨_, by simpa using hspaced⟩
        | cons d gap =>
          refine ⟨_, halone (fun e he => ?_) (.word hgap hw hrest h)⟩
          obtain rfl : d = e := by simpa using he
          exact hgap d List.mem_cons_self

end Text

namespace DataFile
open Text

variable {line : List Char} {ws : List String} {data : DataFile} {text : String}

theorem wordsOf_of_spaced (h : Spaced ws line) : wordsOf line = ws := by
  induction h with
  | gap hgap => rw [wordsOf, words_of_blank hgap, List.map_nil]
  | @word gap rest w ws hgap hw hrest _ ih =>
    rw [wordsOf, List.append_assoc, words_gap_append hgap, words_unbroken_append hw hrest,
      List.map_cons, ← wordsOf, ih, String.ofList_toList]

theorem wordsOf_eq_iff : wordsOf line = ws ↔ Spaced ws line := by
  constructor
  · rintro rfl
    obtain ⟨ws, h⟩ := exists_spaced line
    rwa [wordsOf_of_spaced h]
  · exact wordsOf_of_spaced

theorem spaced_wordsOf (line : List Char) : Spaced (wordsOf line) line :=
  wordsOf_eq_iff.mp rfl

theorem wordsOf_eq_nil_iff : wordsOf line = [] ↔ Blank line := by
  rw [wordsOf_eq_iff]
  constructor
  · rintro ⟨hgap⟩
    exact hgap
  · exact .gap

theorem wordsOf_append {e : List Char} (he : Blank e) (line : List Char) :
    wordsOf (line ++ e) = wordsOf line := by
  rw [wordsOf, words_append_gap he, ← wordsOf]

/-- Lines that hold these rows one after the other, and blank lines among them. -/
inductive Rows : List (List String) → List (List Char) → Prop
  | nil : Rows [] []
  | blank {line : List Char} {rows : List (List String)} {ls : List (List Char)}
      (hline : Blank line) (h : Rows rows ls) : Rows rows (line :: ls)
  | row {line : List Char} {row : List String} {rows : List (List String)}
      {ls : List (List Char)} (hrow : row ≠ []) (hline : Spaced row line) (h : Rows rows ls) :
      Rows (row :: rows) (line :: ls)

/-- A text with the columns on its first line and the rows on the lines after it. -/
def Laid (data : DataFile) (text : String) : Prop :=
  data.columns ≠ [] ∧ ∃ header ls, Lined (header :: ls) text.toList ∧
    Spaced data.columns header ∧ Rows data.rows ls

def row? (line : List Char) : Option (List String) :=
  if wordsOf line = [] then none else some (wordsOf line)

theorem row?_append {e : List Char} (he : Blank e) (line : List Char) :
    row? (line ++ e) = row? line := by
  rw [row?, row?, wordsOf_append he]

theorem row?_nil : row? [] = none := by
  rw [row?, if_pos (wordsOf_eq_nil_iff.mpr blank_nil)]

theorem row?_of_blank (h : Blank line) : row? line = none := by
  rw [row?, if_pos (wordsOf_eq_nil_iff.mpr h)]

theorem row?_of_not_blank (h : ¬ Blank line) : row? line = some (wordsOf line) := by
  rw [row?, if_neg (mt wordsOf_eq_nil_iff.mp h)]

theorem isBlankLine_iff : isBlankLine line = true ↔ Blank line := by
  rw [isBlankLine, List.isEmpty_iff, trim_eq_nil_iff]

theorem rows_eq (ls : List (List Char)) :
    (ls.filter (!isBlankLine ·)).map wordsOf = ls.filterMap row? := by
  induction ls with
  | nil => rfl
  | cons line ls ih =>
    by_cases h : Blank line
    · rw [List.filter_cons_of_neg (by simp [isBlankLine_iff.mpr h]), ih,
        List.filterMap_cons_none (row?_of_blank h)]
    · rw [List.filter_cons_of_pos (by simpa using mt isBlankLine_iff.mp h), List.map_cons, ih,
        List.filterMap_cons_some (row?_of_not_blank h)]

theorem rows_iff {rows : List (List String)} {ls : List (List Char)} :
    Rows rows ls ↔ ls.filterMap row? = rows := by
  constructor
  · intro h
    induction h with
    | nil => rfl
    | blank hline _ ih => rw [List.filterMap_cons_none (row?_of_blank hline), ih]
    | row hrow hline _ ih =>
      have hwords := wordsOf_of_spaced hline
      rw [List.filterMap_cons_some, ih]
      rw [row?, hwords, if_neg hrow]
  · rintro rfl
    induction ls with
    | nil => exact .nil
    | cons line ls ih =>
      by_cases h : Blank line
      · rw [List.filterMap_cons_none (row?_of_blank h)]
        exact .blank h ih
      · rw [List.filterMap_cons_some (row?_of_not_blank h)]
        exact .row (mt wordsOf_eq_nil_iff.mp h) (spaced_wordsOf line) ih

theorem ofText?_of_no_lines (h : lines text.toList = []) : ofText? text = none := by
  rw [ofText?, h]

theorem ofText?_of_lines {ls : List (List Char)} (h : lines text.toList = line :: ls) :
    ofText? text =
      if wordsOf line = [] then none else some ⟨wordsOf line, ls.filterMap row?⟩ := by
  rw [ofText?, h]
  simp only [List.isEmpty_iff, rows_eq]

theorem ofText?_eq_some_iff : ofText? text = some data ↔ data.Laid text := by
  have hlined := lined_lines text.toList
  constructor
  · intro h
    cases hlines : lines text.toList with
    | nil => simp [ofText?_of_no_lines hlines] at h
    | cons header ls =>
      rw [ofText?_of_lines hlines] at h
      split at h
      · cases h
      · next hne =>
        obtain rfl := Option.some.inj h
        exact ⟨hne, header, ls, hlines ▸ hlined, spaced_wordsOf header, rows_iff.mpr rfl⟩
  · rintro ⟨hne, header, ls, htext, hheader, hrows⟩
    have hcolumns : wordsOf header = data.columns := wordsOf_of_spaced hheader
    cases hlines : lines text.toList with
    | nil =>
      rw [hlines] at hlined
      generalize text.toList = cs at hlined htext
      cases hlined
      obtain ⟨e, _, _, -, hpieces, -⟩ := htext.pieces_cons
      have hempty : header = [] := by
        rw [pieces_of_notMem (by simp)] at hpieces
        exact (List.append_eq_nil_iff.mp (List.cons.inj hpieces).1.symm).1
      rw [hempty, wordsOf_eq_nil_iff.mpr blank_nil] at hcolumns
      exact absurd hcolumns.symm hne
    | cons header' ls' =>
      rw [hlines] at hlined
      obtain ⟨⟨e, e', he, he', hsame⟩, hread⟩ :=
        Lined.agree (fun line _ he => row?_append he line) row?_nil hlined htext
      have hheader' : wordsOf header' = data.columns := by
        rw [← hcolumns, ← wordsOf_append he header', hsame, wordsOf_append he']
      rw [ofText?_of_lines hlines, hheader', if_neg hne, hread, rows_iff.mp hrows]

theorem ofText?_eq_none_iff :
    ofText? text = none ↔ ∀ line ∈ (lines text.toList).head?, Blank line := by
  cases hlines : lines text.toList with
  | nil => simp [ofText?_of_no_lines hlines]
  | cons header ls =>
    rw [ofText?_of_lines hlines]
    simp [wordsOf_eq_nil_iff]

theorem Rows.unbroken {rows : List (List String)} {ls : List (List Char)} (h : Rows rows ls) :
    ∀ row ∈ rows, row ≠ [] ∧ ∀ w ∈ row, Unbroken w := by
  induction h with
  | nil => simp
  | blank _ _ ih => exact ih
  | row hrow hline _ ih =>
    exact List.forall_mem_cons.mpr ⟨⟨hrow, hline.unbroken⟩, ih⟩

theorem Rows.length_eq {rows : List (List String)} {ls : List (List Char)} (h : Rows rows ls) :
    rows.length = ls.countP fun line => ¬ Blank line := by
  induction h with
  | nil => rfl
  | blank hline _ ih => rw [List.countP_cons_of_neg (by simpa using hline), ih]
  | row hrow hline _ ih =>
    have hsome : ¬ Blank _ := fun hblank =>
      hrow ((wordsOf_of_spaced hline).symm.trans (wordsOf_eq_nil_iff.mpr hblank))
    rw [List.countP_cons_of_pos (by simpa using hsome), List.length_cons, ih]

def spacedLine (ws : List String) : List Char :=
  ws.flatMap fun w => ' ' :: w.toList

theorem spaced_spacedLine (h : ∀ w ∈ ws, Unbroken w) : Spaced ws (spacedLine ws) := by
  induction ws with
  | nil => exact .gap blank_nil
  | cons w ws ih =>
    obtain ⟨hw, hrest⟩ := List.forall_mem_cons.mp h
    refine .word (show Blank [' '] by decide) hw (fun c hc => ?_) (ih hrest)
    cases ws with
    | nil => cases hc
    | cons =>
      obtain rfl : ' ' = c := by simpa using hc
      decide

theorem notMem_spacedLine (h : ∀ w ∈ ws, Unbroken w) : '\n' ∉ spacedLine ws := by
  intro hmem
  obtain ⟨w, hw, hc⟩ := List.mem_flatMap.mp hmem
  rcases List.mem_cons.mp hc with hspace | hc
  · cases hspace
  · exact absurd ((h w hw).dense '\n' hc) (by decide)

theorem rows_spacedLines {rows : List (List String)}
    (h : ∀ row ∈ rows, row ≠ [] ∧ ∀ w ∈ row, Unbroken w) : Rows rows (rows.map spacedLine) := by
  induction rows with
  | nil => exact .nil
  | cons row rows ih =>
    obtain ⟨⟨hne, hrow⟩, hrest⟩ := List.forall_mem_cons.mp h
    exact .row hne (spaced_spacedLine hrow) (ih hrest)

/-- Columns and rows that can stand in a data file: there is a column, no row is empty, and no
word is empty or holds white space. -/
structure Plain (data : DataFile) : Prop where
  columns : data.columns ≠ []
  rows : ∀ row ∈ data.rows, row ≠ []
  words : ∀ row ∈ data.columns :: data.rows, ∀ w ∈ row, Unbroken w

theorem Laid.plain (h : data.Laid text) : data.Plain := by
  obtain ⟨hne, header, ls, -, hheader, hrows⟩ := h
  exact ⟨hne, fun row hrow => (hrows.unbroken row hrow).1,
    List.forall_mem_cons.mpr ⟨hheader.unbroken, fun row hrow => (hrows.unbroken row hrow).2⟩⟩

theorem exists_laid_iff : (∃ text, data.Laid text) ↔ data.Plain := by
  constructor
  · rintro ⟨text, h⟩
    exact h.plain
  · rintro ⟨hne, hrows, hwords⟩
    obtain ⟨hheader, hwords⟩ := List.forall_mem_cons.mp hwords
    refine ⟨String.ofList (((data.columns :: data.rows).map spacedLine).flatMap (· ++ ['\n'])), hne,
      spacedLine data.columns, data.rows.map spacedLine, ?_, spaced_spacedLine hheader,
      rows_spacedLines fun row hrow => ⟨hrows row hrow, hwords row hrow⟩⟩
    rw [String.toList_ofList]
    apply lined_ended
    rw [List.forall_mem_cons, List.forall_mem_map]
    exact ⟨notMem_spacedLine hheader, fun row hrow => notMem_spacedLine (hwords row hrow)⟩

theorem length_rows (h : ofText? text = some data) :
    data.rows.length = (lines text.toList).tail.countP fun line => ¬ Blank line := by
  cases hlines : lines text.toList with
  | nil => simp [ofText?_of_no_lines hlines] at h
  | cons header ls =>
    rw [ofText?_of_lines hlines] at h
    split at h
    · cases h
    · obtain rfl := Option.some.inj h
      exact Rows.length_eq (rows_iff.mpr rfl)

theorem ofBytes_toUTF8 (text : String) : FileState.ofBytes text.toUTF8 = .text text := by
  have hread : String.fromUTF8? text.toUTF8 = some text := by
    simp only [String.fromUTF8?, String.toUTF8_eq_toByteArray, dif_pos text.isValidUTF8]
    rfl
  rw [FileState.ofBytes, hread]

theorem read_of_text {files : Files} {path : String} (h : files path = .ofBytes text.toUTF8) :
    DataFile.read files path =
      match ofText? text with
      | some data => .ok data
      | none => .error (.resource (.emptyInputFile path)) := by
  rw [DataFile.read, Files.read, h, ofBytes_toUTF8]
  rfl

/-- Whatever can stand in a data file can be laid out in one, and from a file in UTF-8 just the
columns and rows are read that it is laid out in. Reading fails just if the first line is blank
or not there. There are as many rows as there are lines after it that are not blank. -/
theorem read_laid_out (files : Files) (path text : String)
    (h : files path = .ofBytes text.toUTF8) :
    (∀ data, DataFile.read files path = .ok data ↔ data.Laid text) ∧
      (∀ data : DataFile, (∃ text, data.Laid text) ↔ data.Plain) ∧
      (∀ e, DataFile.read files path = .error e ↔ e = .resource (.emptyInputFile path) ∧
        ∀ line ∈ (lines text.toList).head?, Blank line) ∧
      ∀ data, DataFile.read files path = .ok data → data.Plain ∧
        data.rows.length = (lines text.toList).tail.countP fun line => ¬ Blank line := by
  have hok : ∀ data, DataFile.read files path = .ok data ↔ ofText? text = some data := by
    intro data
    rw [read_of_text h]
    cases ofText? text <;> simp
  refine ⟨fun data => (hok data).trans ofText?_eq_some_iff, fun _ => exists_laid_iff,
    fun e => ?_, fun data hdata => ?_⟩
  · rw [read_of_text h, ← ofText?_eq_none_iff]
    cases ofText? text <;> simp [eq_comm]
  · have htext := (hok data).mp hdata
    exact ⟨(ofText?_eq_some_iff.mp htext).plain, length_rows htext⟩

def scatteredText : String :=
  "\tecal_channel_id\u3000gain \r\n1 0.15\n\r\n \u00a0\n\u20032\t\t0.17\u2028#\r\r\n\u200b\r"

def scatteredFiles : Files := fun path =>
  if path = "gains.txt" then .ofBytes scatteredText.toUTF8 else .missing

theorem scattered_read :
    scatteredFiles "gains.txt" = .ofBytes scatteredText.toUTF8 ∧
      DataFile.read scatteredFiles "gains.txt" =
        .ok ⟨["ecal_channel_id", "gain"], [["1", "0.15"], ["2", "0.17", "#"], ["\u200b"]]⟩ ∧
      (⟨["ecal_channel_id", "gain"],
        [["1", "0.15"], ["2", "0.17", "#"], ["\u200b"]]⟩ : DataFile).Laid scatteredText ∧
      3 = (lines scatteredText.toList).tail.countP fun line => ¬ Blank line := by
  have hfile : scatteredFiles "gains.txt" = .ofBytes scatteredText.toUTF8 := if_pos rfl
  obtain ⟨hlaid, -, -, hread⟩ := read_laid_out scatteredFiles "gains.txt" scatteredText hfile
  have hok : DataFile.read scatteredFiles "gains.txt" =
      .ok ⟨["ecal_channel_id", "gain"], [["1", "0.15"], ["2", "0.17", "#"], ["\u200b"]]⟩ := by
    decide +kernel
  exact ⟨hfile, hok, (hlaid _).mp hok, (hread _ hok).2⟩

end DataFile
end RunConditions
