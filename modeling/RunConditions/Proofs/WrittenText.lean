import RunConditions.Proofs.AttributeText
import RunConditions.Text.Blank
import RunConditions.Xml.Document

/-!
# Writing documents

A text is a row of tags with white space and comments between them. Reading it
gives the tags in order and no fault.
-/

set_option autoImplicit false

namespace RunConditions.Xml
open Text

/-- What a comment may say: no two dashes in a row, and none at the end. -/
inductive CommentBody : List Char → Prop
  | nil : CommentBody []
  | char {c : Char} {cs : List Char} : c ≠ '-' → CommentBody cs → CommentBody (c :: cs)
  | dash {c : Char} {cs : List Char} : c ≠ '-' → CommentBody cs → CommentBody ('-' :: c :: cs)

/-- Tags in order and a text that they are written in. -/
inductive Written : List Token → List Char → Prop
  | nil : Written [] []
  | blank {c : Char} {ts : List Token} {cs : List Char} : isBlank c = true →
      Written ts cs → Written ts (c :: cs)
  | comment {body : List Char} {ts : List Token} {cs : List Char} : CommentBody body →
      Written ts cs → Written ts ('<' :: '!' :: '-' :: '-' :: (body ++ '-' :: '-' :: '>' :: cs))
  | opening {name : String} {attributes : List (String × List Char)} {ts : List Token}
      {cs : List Char} : IsWord name → Attributes attributes → Written ts cs →
      Written (.opening (.written name attributes) :: ts)
        ('<' :: ((Tag.written name attributes).content ++ '>' :: cs))
  | empty {name : String} {attributes : List (String × List Char)} {ts : List Token}
      {cs : List Char} : IsWord name → Attributes attributes → Written ts cs →
      Written (.empty (.written name attributes) :: ts)
        ('<' :: ((Tag.written name attributes).content ++ '/' :: '>' :: cs))
  | closing {name : String} {ts : List Token} {cs : List Char} : IsWord name →
      Written ts cs → Written (.closing name :: ts) ('<' :: '/' :: (name.toList ++ '>' :: cs))

theorem tokens_of_step_none {c : Char} {cs rest : List Char}
    (h : step (c :: cs) = .ok (none, rest)) : tokens (c :: cs) = tokens rest := by
  rw [tokens]
  split <;> simp_all

theorem tokens_of_step_some {c : Char} {cs rest : List Char} {token : Token}
    (h : step (c :: cs) = .ok (some token, rest)) :
    tokens (c :: cs) = (token :: (tokens rest).1, (tokens rest).2) := by
  rw [tokens]
  split <;> simp_all

theorem step_blank {c : Char} (hc : isBlank c = true) (cs : List Char) :
    step (c :: cs) = .ok (none, cs) := by
  have hopen : c ≠ '<' := by
    rintro rfl
    exact absurd hc (by decide)
  have hreference : c ≠ '&' := by
    rintro rfl
    exact absurd hc (by decide)
  rw [step]
  all_goals simp_all

theorem breakOn_comment {body : List Char} (h : CommentBody body) (rest : List Char) :
    breakOn ['-', '-', '>'] (body ++ '-' :: '-' :: '>' :: rest) = some (body, rest) := by
  induction h with
  | nil => rfl
  | char hc _ ih =>
    rw [List.cons_append, breakOn, ih]
    simp [hc.symm]
  | dash hc _ ih =>
    rw [List.cons_append, breakOn, List.cons_append, breakOn, ih]
    simp [hc.symm]

theorem step_comment {body : List Char} (h : CommentBody body) (rest : List Char) :
    step ('<' :: '!' :: '-' :: '-' :: (body ++ '-' :: '-' :: '>' :: rest)) = .ok (none, rest) := by
  rw [step, skipDeclaration, breakOn_comment h]
  rfl

theorem step_declaration {info : List Char} (h : '?' ∉ info) (rest : List Char) :
    step ('<' :: '?' :: 'x' :: (info ++ '?' :: '>' :: rest)) = .ok (none, rest) := by
  have hbreak : breakOn ['?', '>'] (info ++ '?' :: '>' :: rest) = some (info, rest) := by
    induction info with
    | nil => rfl
    | cons c info ih =>
      have hc : c ≠ '?' := fun hc => h (by simp [hc])
      rw [List.cons_append, breakOn, ih fun hmem => h (by simp [hmem])]
      simp [hc.symm]
  simp [step, skipInstruction, breakOn, hbreak, Except.map]

section Tags

variable {name : String} {attributes : List (String × List Char)}

theorem written_cons (hname : IsWord name) (attributes : List (String × List Char)) :
    ∃ first tail, (Tag.written name attributes).content = first :: tail ∧
      first.isLower = true := by
  obtain ⟨first, tail, h⟩ := List.exists_cons_of_ne_nil hname.1
  refine ⟨first, tail ++ attributesText attributes, ?_, hname.isLower (by simp [h])⟩
  rw [Tag.written, h, List.cons_append]

theorem attributesText_getLast? (hattributes : attributes ≠ []) :
    (attributesText attributes).getLast? = some '"' := by
  induction attributes with
  | nil => exact absurd rfl hattributes
  | cons a rest ih =>
    cases rest with
    | nil => simp [attributesText, List.getLast?_cons]
    | cons b rest =>
      rw [attributesText, List.getLast?_cons, List.getLast?_append, List.getLast?_cons,
        List.getLast?_cons, List.getLast?_append, List.getLast?_cons, ih (by simp)]
      rfl

theorem getLast?_written (hname : IsWord name) (attributes : List (String × List Char)) :
    (Tag.written name attributes).content.getLast? ≠ some '/' := by
  rw [Tag.written, List.getLast?_append]
  by_cases h : attributes = []
  · subst h
    intro hslash
    have hmem : '/' ∈ name.toList := List.mem_of_getLast? (by simpa [attributesText] using hslash)
    exact hname.notMem (by decide) hmem
  · simp [attributesText_getLast? h]

theorem step_letter {first : Char} (hfirst : first.isLower = true) {content tail rest : List Char}
    (hbreak : breakTag none (first :: tail) = some (content, rest)) :
    step ('<' :: first :: tail) = .ok (some (tagOfContent content), rest) := by
  have hdeclaration := ne_of_isLower hfirst (d := '!') (by decide)
  have hinstruction := ne_of_isLower hfirst (d := '?') (by decide)
  have hslash := ne_of_isLower hfirst (d := '/') (by decide)
  simp [step, readTag, hdeclaration, hinstruction, hslash, hbreak, Except.map]

theorem step_opening (hname : IsWord name) (h : Attributes attributes) (rest : List Char) :
    step ('<' :: ((Tag.written name attributes).content ++ '>' :: rest)) =
      .ok (some (.opening (.written name attributes)), rest) := by
  have hbreak := breakTag_written hname h ('>' :: rest)
  obtain ⟨first, tail, hcons, hfirst⟩ := written_cons hname attributes
  have hlast := getLast?_written hname attributes
  generalize Tag.written name attributes = tag at *
  obtain ⟨content⟩ := tag
  subst hcons
  rw [List.cons_append] at hbreak ⊢
  rw [step_letter hfirst hbreak, tagOfContent]
  simp [hlast]

theorem tagOfContent_slash (content : List Char) :
    tagOfContent (content ++ ['/']) = .empty ⟨content⟩ := by
  simp [tagOfContent]

theorem step_empty (hname : IsWord name) (h : Attributes attributes) (rest : List Char) :
    step ('<' :: ((Tag.written name attributes).content ++ '/' :: '>' :: rest)) =
      .ok (some (.empty (.written name attributes)), rest) := by
  have hbreak := breakTag_written hname h ('/' :: '>' :: rest)
  obtain ⟨first, tail, hcons, hfirst⟩ := written_cons hname attributes
  generalize Tag.written name attributes = tag at *
  obtain ⟨content⟩ := tag
  subst hcons
  rw [List.cons_append] at hbreak ⊢
  rw [step_letter hfirst hbreak, tagOfContent_slash]

theorem closingName_word (hname : IsWord name) : closingName name.toList = name := by
  obtain ⟨last, init, h⟩ := List.exists_cons_of_ne_nil (List.reverse_ne_nil_iff.mpr hname.1)
  have hlast : isSpace last = false := by
    have hmem : last ∈ name.toList.reverse := by simp [h]
    exact isSpace_of_isLower (hname.isLower (List.mem_reverse.mp hmem))
  have hsome : name.toList.all isSpace = false := by
    rw [← List.all_reverse, h]
    simp [hlast]
  simp only [closingName, hsome, h]
  rw [List.dropWhile_cons_of_neg (by simp [hlast]), ← h]
  simp

theorem step_closing (hname : IsWord name) (rest : List Char) :
    step ('<' :: '/' :: (name.toList ++ '>' :: rest)) = .ok (some (.closing name), rest) := by
  have hbreak : breakTag none (name.toList ++ '>' :: rest) = some (name.toList, rest) := by
    rw [breakTag_plain hname.unquoted, breakTag]
    simp
  simp [step, readTag, hbreak, closingName_word hname, Except.map]

end Tags

theorem Written.tokens {ts : List Token} {cs : List Char} (h : Written ts cs) :
    tokens cs = (ts, none) := by
  induction h with
  | nil => rw [Xml.tokens]
  | blank hc _ ih => rw [tokens_of_step_none (step_blank hc _), ih]
  | comment hbody _ ih => rw [tokens_of_step_none (step_comment hbody _), ih]
  | opening hname h _ ih => rw [tokens_of_step_some (step_opening hname h _), ih]
  | empty hname h _ ih => rw [tokens_of_step_some (step_empty hname h _), ih]
  | closing hname _ ih => rw [tokens_of_step_some (step_closing hname _), ih]

theorem dropMark_cons {c : Char} (hc : c ≠ '\uFEFF') (cs : List Char) :
    dropMark (c :: cs) = c :: cs := by
  simp [dropMark, hc]

theorem Written.dropMark {ts : List Token} {cs : List Char} (h : Written ts cs) :
    dropMark cs = cs := by
  have hmark : isBlank '\uFEFF' = false := by decide
  cases h with
  | @blank c _ _ hc _ =>
    have hne : c ≠ '\uFEFF' := by
      rintro rfl
      rw [hmark] at hc
      cases hc
    exact dropMark_cons hne _
  | _ => rfl

end RunConditions.Xml
