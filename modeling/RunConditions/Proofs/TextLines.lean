import Mathlib.Data.List.DropRight
import RunConditions.Text.Blank

/-!
# Lines and the white space around texts

A text is trimmed by taking away the white space at its ends and nothing else.
It is a row of lines, each with a newline or a carriage return and a newline
behind it, where the last line may have no end. A reader of lines to which
white space at the end of a line means nothing finds in a text what it finds
between its newlines.
-/

set_option autoImplicit false

namespace RunConditions.Text

variable {cs rest line left right : List Char} {c : Char}

def Blank (cs : List Char) : Prop :=
  ∀ c ∈ cs, isBlank c = true

instance (cs : List Char) : Decidable (Blank cs) :=
  List.decidableBAll (fun c => isBlank c = true) cs

structure Trimmed (cs : List Char) : Prop where
  head : ∀ c ∈ cs.head?, isBlank c = false
  last : ∀ c ∈ cs.getLast?, isBlank c = false

theorem trimmed_iff :
    Trimmed cs ↔ (∀ c ∈ cs.head?, isBlank c = false) ∧ ∀ c ∈ cs.getLast?, isBlank c = false :=
  ⟨fun h => ⟨h.head, h.last⟩, fun h => ⟨h.1, h.2⟩⟩

instance (cs : List Char) : Decidable (Trimmed cs) :=
  decidable_of_iff (cs.head?.all (!isBlank ·) = true ∧ cs.getLast?.all (!isBlank ·) = true) <| by
    simp [trimmed_iff, Option.all_eq_true]

theorem Blank.append (hleft : Blank left) (hright : Blank right) : Blank (left ++ right) :=
  List.forall_mem_append.mpr ⟨hleft, hright⟩

theorem blank_nil : Blank [] := by
  simp [Blank]

theorem trimmed_nil : Trimmed [] :=
  ⟨by simp, by simp⟩

theorem exists_after_trimEnd (cs : List Char) :
    ∃ after, Blank after ∧ cs = trimEnd cs ++ after :=
  ⟨cs.rtakeWhile isBlank, fun _ hc => List.mem_rtakeWhile_imp hc,
    List.rdropWhile_append_rtakeWhile.symm⟩

theorem last_trimEnd (cs : List Char) : ∀ c ∈ (trimEnd cs).getLast?, isBlank c = false := by
  intro c hc
  obtain ⟨before, hbefore⟩ := List.getLast?_eq_some_iff.mp hc
  have hne : List.rdropWhile isBlank cs ≠ [] := by
    show trimEnd cs ≠ []
    simp [hbefore]
  have heq : (List.rdropWhile isBlank cs).getLast hne = c := by
    apply Option.some.inj
    rw [← List.getLast?_eq_getLast_of_ne_nil hne]
    exact hc
  have hlast := List.rdropWhile_last_not isBlank cs hne
  rw [heq] at hlast
  simpa using hlast

theorem trim_surrounded (hleft : Blank left) (hright : Blank right) (h : Trimmed cs) :
    trim (left ++ cs ++ right) = cs := by
  rw [trim, trimStart, List.append_assoc, List.dropWhile_append_of_pos hleft]
  cases cs with
  | nil =>
    rw [List.nil_append, List.dropWhile_eq_nil_iff.mpr hright]
    rfl
  | cons c cs =>
    have hc : isBlank c = false := h.head c rfl
    rw [List.cons_append, List.dropWhile_cons_of_neg (by simp [hc]), trimEnd, ← List.cons_append,
      List.reverse_append, List.dropWhile_append_of_pos (by simpa [Blank] using hright)]
    show List.rdropWhile isBlank (c :: cs) = c :: cs
    rw [List.rdropWhile_eq_self_iff]
    intro hne
    simpa using h.last _ (List.getLast?_eq_getLast_of_ne_nil hne)

theorem exists_surroundings (cs : List Char) :
    ∃ left right, Blank left ∧ Blank right ∧ cs = left ++ trim cs ++ right := by
  obtain ⟨after, hafter, hend⟩ := exists_after_trimEnd (trimStart cs)
  refine ⟨cs.takeWhile isBlank, after, fun c hc => List.mem_takeWhile_imp hc, hafter, ?_⟩
  rw [List.append_assoc, trim, ← hend]
  exact List.takeWhile_append_dropWhile.symm

theorem trimmed_trim (cs : List Char) : Trimmed (trim cs) := by
  refine ⟨fun c hc => ?_, last_trimEnd (trimStart cs)⟩
  obtain ⟨rest, hrest⟩ := List.head?_eq_some_iff.mp hc
  obtain ⟨after, -, hend⟩ := exists_after_trimEnd (trimStart cs)
  rw [← trim, hrest, List.cons_append] at hend
  have hhead := List.head?_dropWhile_not isBlank cs
  rw [← trimStart, hend] at hhead
  exact hhead

theorem trim_eq_iff {v : List Char} :
    trim cs = v ↔ Trimmed v ∧ ∃ left right, Blank left ∧ Blank right ∧ cs = left ++ v ++ right := by
  constructor
  · rintro rfl
    exact ⟨trimmed_trim cs, exists_surroundings cs⟩
  · rintro ⟨hv, left, right, hleft, hright, rfl⟩
    exact trim_surrounded hleft hright hv

theorem trim_eq_nil_iff : trim cs = [] ↔ Blank cs := by
  rw [trim_eq_iff]
  constructor
  · rintro ⟨-, left, right, hleft, hright, rfl⟩
    simpa using hleft.append hright
  · intro h
    exact ⟨trimmed_nil, cs, [], h, blank_nil, by simp⟩

theorem trim_append (hright : Blank right) : trim (cs ++ right) = trim cs := by
  obtain ⟨left', right', hleft', hright', hcs⟩ := exists_surroundings cs
  rw [trim_eq_iff]
  refine ⟨trimmed_trim cs, left', right' ++ right, hleft', hright'.append hright, ?_⟩
  rw [← List.append_assoc, ← hcs]

theorem trim_trimEnd (cs : List Char) : trim (trimEnd cs) = trim cs := by
  obtain ⟨after, hafter, hend⟩ := exists_after_trimEnd cs
  conv_rhs => rw [hend, trim_append hafter]

theorem trim_mark {start : List Char} {mark : Char} (hleft : Blank left)
    (hstart : ∀ c ∈ start.head?, isBlank c = false) (hmark : isBlank mark = false) :
    trim (left ++ start ++ mark :: cs) = start ++ mark :: trimEnd cs := by
  obtain ⟨after, hafter, hend⟩ := exists_after_trimEnd cs
  refine trim_eq_iff.mpr ⟨⟨fun c hc => ?_, fun c hc => ?_⟩, left, after, hleft, hafter, ?_⟩
  · cases start with
    | nil =>
      obtain rfl : mark = c := by simpa using hc
      exact hmark
    | cons d start => exact hstart c (by simpa using hc)
  · rw [List.getLast?_append_of_ne_nil _ (by simp), List.getLast?_cons] at hc
    cases hlast : (trimEnd cs).getLast? with
    | none =>
      obtain rfl : mark = c := by simpa [hlast] using hc
      exact hmark
    | some d =>
      obtain rfl : d = c := by simpa [hlast] using hc
      exact last_trimEnd cs d hlast
  · conv_lhs => rw [hend]
    simp

theorem blank_carriageReturn : Blank ['\r'] := by
  decide

@[elab_as_elim]
theorem line_induction {motive : List Char → Prop} (last : ∀ line, '\n' ∉ line → motive line)
    (line : ∀ line rest, '\n' ∉ line → motive rest → motive (line ++ '\n' :: rest))
    (cs : List Char) : motive cs := by
  by_cases h : '\n' ∈ cs
  · obtain ⟨first, rest, hcs, hfirst⟩ := List.eq_append_cons_of_mem h
    have hshorter : rest.length < cs.length := by
      rw [hcs, List.length_append, List.length_cons]
      omega
    rw [hcs]
    exact line first rest hfirst (line_induction last line rest)
  · exact last cs h
termination_by cs.length

def pieces (cs : List Char) : List (List Char) :=
  cs.splitOnP (· == '\n')

theorem pieces_append (cs rest : List Char) :
    pieces (cs ++ '\n' :: rest) = pieces cs ++ pieces rest :=
  List.splitOnP_append_cons cs rest (beq_self_eq_true '\n')

theorem pieces_of_notMem (h : '\n' ∉ line) : pieces line = [line] :=
  List.splitOnP_eq_singleton fun _ hc => beq_eq_false_iff_ne.mpr (ne_of_mem_of_not_mem hc h)

theorem pieces_line (h : '\n' ∉ line) (rest : List Char) :
    pieces (line ++ '\n' :: rest) = line :: pieces rest := by
  rw [pieces_append, pieces_of_notMem h, List.singleton_append]

theorem lines_of_notMem (h : '\n' ∉ line) : lines line = if line.isEmpty then [] else [line] := by
  rw [lines, ← pieces, pieces_of_notMem h, linesOfPieces]

theorem lines_line (h : '\n' ∉ line) (rest : List Char) :
    lines (line ++ '\n' :: rest) = dropCarriageReturn line :: lines rest := by
  rw [lines, ← pieces, pieces_line h]
  obtain ⟨piece, more, hpieces⟩ :=
    List.exists_cons_of_ne_nil (List.splitOnP_ne_nil (· == '\n') rest)
  rw [lines, hpieces, pieces, hpieces, linesOfPieces]

theorem dropCarriageReturn_cases (line : List Char) :
    line = dropCarriageReturn line ∨ line = dropCarriageReturn line ++ ['\r'] := by
  rw [dropCarriageReturn]
  split
  · next h =>
    exact Or.inr (List.dropLast_append_getLast? '\r' h).symm
  · exact Or.inl rfl

/-- How a line may end. -/
def LineEnd (e : List Char) : Prop :=
  e = ['\n'] ∨ e = ['\r', '\n']

instance (e : List Char) : Decidable (LineEnd e) :=
  inferInstanceAs (Decidable (_ ∨ _))

/-- A text and lines that it consists of. -/
inductive Lined : List (List Char) → List Char → Prop
  | nil : Lined [] []
  | last {line : List Char} (h : '\n' ∉ line) : Lined [line] line
  | line {line e rest : List Char} {ls : List (List Char)} (hline : '\n' ∉ line) (he : LineEnd e)
      (h : Lined ls rest) : Lined (line :: ls) (line ++ e ++ rest)

theorem lined_lines (cs : List Char) : Lined (lines cs) cs := by
  induction cs using line_induction with
  | last line h =>
    rw [lines_of_notMem h]
    split
    · next hempty =>
      rw [List.isEmpty_iff.mp hempty]
      exact .nil
    · exact .last h
  | line line rest h ih =>
    rw [lines_line h]
    rcases dropCarriageReturn_cases line with heq | heq
    · have htext : line ++ '\n' :: rest = line ++ ['\n'] ++ rest := by
        simp
      rw [← heq, htext]
      exact .line h (Or.inl rfl) ih
    · have hdropped : '\n' ∉ dropCarriageReturn line := by
        intro hmem
        rw [heq] at h
        exact h (List.mem_append_left _ hmem)
      have htext : line ++ '\n' :: rest = dropCarriageReturn line ++ ['\r', '\n'] ++ rest := by
        conv_lhs => rw [heq]
        simp
      rw [htext]
      exact .line hdropped (Or.inr rfl) ih

theorem Lined.notMem {ls : List (List Char)} (h : Lined ls cs) : ∀ line ∈ ls, '\n' ∉ line := by
  induction h with
  | nil => simp
  | last h => simpa using h
  | line hline _ _ ih => exact List.forall_mem_cons.mpr ⟨hline, ih⟩

theorem lined_ended {ls : List (List Char)} (h : ∀ line ∈ ls, '\n' ∉ line) :
    Lined ls (ls.flatMap (· ++ ['\n'])) := by
  induction ls with
  | nil => exact .nil
  | cons line ls ih =>
    obtain ⟨hline, hrest⟩ := List.forall_mem_cons.mp h
    exact .line hline (Or.inl rfl) (ih hrest)

theorem Lined.pieces_cons {ls : List (List Char)} (h : Lined (line :: ls) cs) :
    ∃ e more rest, Blank e ∧ pieces cs = (line ++ e) :: more ∧
      (more = [] ∧ ls = [] ∨ more = pieces rest ∧ Lined ls rest) := by
  cases h with
  | last h => exact ⟨[], [], [], blank_nil, by simp [pieces_of_notMem h], Or.inl ⟨rfl, rfl⟩⟩
  | @line _ e rest _ hline he h =>
    rcases he with rfl | rfl
    · refine ⟨[], pieces rest, rest, blank_nil, ?_, Or.inr ⟨rfl, h⟩⟩
      rw [List.append_nil, List.append_assoc, List.singleton_append, pieces_line hline]
    · refine ⟨['\r'], pieces rest, rest, blank_carriageReturn, ?_, Or.inr ⟨rfl, h⟩⟩
      have hreturn : '\n' ∉ line ++ ['\r'] := by
        simp [hline]
      rw [← pieces_line hreturn]
      simp

section Reading

variable {β : Type} {f : List Char → Option β}
  (hend : ∀ line e, Blank e → f (line ++ e) = f line) (hnil : f [] = none)

include hend

theorem dropped_eq (line : List Char) : f (dropCarriageReturn line) = f line := by
  rcases dropCarriageReturn_cases line with h | h
  · rw [← h]
  · conv_rhs => rw [h, hend _ _ blank_carriageReturn]

include hnil

theorem filterMap_lines (cs : List Char) : (lines cs).filterMap f = (pieces cs).filterMap f := by
  induction cs using line_induction with
  | last line h =>
    rw [lines_of_notMem h, pieces_of_notMem h]
    split
    · next hempty => simp [List.isEmpty_iff.mp hempty, hnil]
    · rfl
  | line line rest h ih =>
    rw [lines_line h, pieces_line h, List.filterMap_cons, List.filterMap_cons, dropped_eq hend, ih]

theorem filterMap_of_lined {ls : List (List Char)} (h : Lined ls cs) :
    (pieces cs).filterMap f = ls.filterMap f := by
  induction ls generalizing cs with
  | nil =>
    cases h
    simp [pieces, List.splitOnP_nil, hnil]
  | cons line ls ih =>
    obtain ⟨e, more, rest, he, hpieces, hmore⟩ := h.pieces_cons
    rw [hpieces, List.filterMap_cons, List.filterMap_cons, hend line e he]
    rcases hmore with ⟨rfl, rfl⟩ | ⟨rfl, hrest⟩
    · rfl
    · rw [ih hrest]

/-- Seen as lines in two ways, a text has the same first line up to white space behind it, and the
other lines are read alike. -/
theorem Lined.agree {line' : List Char} {ls ls' : List (List Char)} (h : Lined (line :: ls) cs)
    (h' : Lined (line' :: ls') cs) :
    (∃ e e', Blank e ∧ Blank e' ∧ line ++ e = line' ++ e') ∧ ls.filterMap f = ls'.filterMap f := by
  have hmore : ∀ {first : List Char} {ls : List (List Char)}, Lined (first :: ls) cs →
      ∃ e more, Blank e ∧ pieces cs = (first ++ e) :: more ∧
        more.filterMap f = ls.filterMap f := by
    intro first ls hlined
    obtain ⟨e, more, rest, he, hpieces, ⟨rfl, rfl⟩ | ⟨rfl, hrest⟩⟩ := hlined.pieces_cons
    · exact ⟨e, [], he, hpieces, rfl⟩
    · exact ⟨e, pieces rest, he, hpieces, filterMap_of_lined hend hnil hrest⟩
  obtain ⟨e, more, he, hpieces, hread⟩ := hmore h
  obtain ⟨e', more', he', hpieces', hread'⟩ := hmore h'
  obtain ⟨hfirst, rfl⟩ := List.cons.inj (hpieces.symm.trans hpieces')
  exact ⟨⟨e, e', he, he', hfirst⟩, hread.symm.trans hread'⟩

theorem filterMap_lines_of_lined {ls : List (List Char)} (h : Lined ls cs) :
    (lines cs).filterMap f = ls.filterMap f :=
  (filterMap_lines hend hnil cs).trans (filterMap_of_lined hend hnil h)

theorem filterMap_lines_append (cs rest : List Char) :
    (lines (cs ++ '\n' :: rest)).filterMap f =
      (lines cs).filterMap f ++ (lines rest).filterMap f := by
  simp only [filterMap_lines hend hnil, pieces_append, List.filterMap_append]

end Reading

end RunConditions.Text
