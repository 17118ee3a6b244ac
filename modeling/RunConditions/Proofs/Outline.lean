import RunConditions.Xml.Document

/-!
# Outlines of documents

Tags nest as elements, and a text may end inside some of them. Every row of
tokens whose closing tags all fit has such an outline.
-/

set_option autoImplicit false

namespace RunConditions.Xml

inductive Content where
  | nil
  | empty (tag : Tag) (after : Content)
  | element (tag : Tag) (inside after : Content)

/-- Elements of which the last ones may be open. -/
inductive Outline where
  | ended (content : Content)
  | opened (before : Content) (tag : Tag) (inside : Outline)

structure Start where
  around : Option String
  tag : Tag
  deriving DecidableEq, Repr

def Start.isIn (s : Start) (outer inner : String) : Bool :=
  s.around == some outer && s.tag.name == inner

namespace Content

def tokens : Content → List Token
  | nil => []
  | empty tag after => .empty tag :: after.tokens
  | element tag inside after => .opening tag :: (inside.tokens ++ .closing tag.name :: after.tokens)

def elements (around : Option String) : Content → List (Start × Content)
  | nil => []
  | empty tag after => (⟨around, tag⟩, nil) :: after.elements around
  | element tag inside after =>
    (⟨around, tag⟩, inside) :: (inside.elements (some tag.name) ++ after.elements around)

def starts (around : Option String) (content : Content) : List Start :=
  (content.elements around).map Prod.fst

@[simp]
theorem starts_nil (around : Option String) : nil.starts around = [] := rfl

@[simp]
theorem starts_empty (around : Option String) (tag : Tag) (after : Content) :
    (empty tag after).starts around = ⟨around, tag⟩ :: after.starts around := rfl

@[simp]
theorem starts_element (around : Option String) (tag : Tag) (inside after : Content) :
    (element tag inside after).starts around =
      ⟨around, tag⟩ :: (inside.starts (some tag.name) ++ after.starts around) := by
  simp [starts, elements]

end Content

namespace Outline

def tokens : Outline → List Token
  | ended content => content.tokens
  | opened before tag inside => before.tokens ++ .opening tag :: inside.tokens

def elements (around : Option String) : Outline → List (Start × Content)
  | ended content => content.elements around
  | opened before tag inside => before.elements around ++ inside.elements (some tag.name)

def unended (around : Option String) : Outline → List (Start × Outline)
  | ended _ => []
  | opened _ tag inside => (⟨around, tag⟩, inside) :: inside.unended (some tag.name)

def starts (around : Option String) (doc : Outline) : List Start :=
  (doc.elements around).map Prod.fst ++ (doc.unended around).map Prod.fst

@[simp]
theorem starts_ended (around : Option String) (content : Content) :
    (ended content).starts around = content.starts around := by
  simp [starts, elements, unended, Content.starts]

theorem mem_starts_opened {around : Option String} {before : Content} {tag : Tag}
    {inside : Outline} {s : Start} :
    s ∈ (opened before tag inside).starts around ↔
      s ∈ before.starts around ∨ s = ⟨around, tag⟩ ∨ s ∈ inside.starts (some tag.name) := by
  simp only [starts, elements, unended, Content.starts, List.map_append, List.map_cons,
    List.mem_append, List.mem_cons]
  grind

end Outline

/-- How tokens go on inside open elements: the innermost is never closed, or it
is and tokens follow that go on inside the others. -/
inductive Continues : List String → List Token → Prop
  | outline {path : List String} (doc : Outline) : Continues path doc.tokens
  | closes {path : List String} {name : String} {ts : List Token} (content : Content) :
      Continues path ts → Continues (name :: path) (content.tokens ++ .closing name :: ts)

def Fits : List String → List Token → Prop
  | _, [] => True
  | path, .empty _ :: ts => Fits path ts
  | path, .opening tag :: ts => Fits (tag.name :: path) ts
  | path, .closing name :: ts => ∃ outer, path = name :: outer ∧ Fits outer ts

section Existence

variable {path : List String} {ts : List Token}

theorem Continues.empty (h : Continues path ts) (tag : Tag) :
    Continues path (.empty tag :: ts) := by
  cases h with
  | outline doc =>
    cases doc with
    | ended content => exact .outline (.ended (.empty tag content))
    | opened before tag' inside => exact .outline (.opened (.empty tag before) tag' inside)
  | closes content hrest => exact .closes (.empty tag content) hrest

theorem Content.tokens_element (tag : Tag) (inside after : Content) (ts : List Token) :
    (element tag inside after).tokens ++ ts =
      .opening tag :: (inside.tokens ++ .closing tag.name :: (after.tokens ++ ts)) := by
  simp [tokens]

theorem Continues.opening {tag : Tag} (h : Continues (tag.name :: path) ts) :
    Continues path (.opening tag :: ts) := by
  cases h with
  | outline doc => exact .outline (.opened .nil tag doc)
  | closes inside hrest =>
    cases hrest with
    | outline doc =>
      cases doc with
      | ended content => exact .outline (.ended (.element tag inside content))
      | opened before tag' doc =>
        have hdoc : Continues path (Outline.opened (.element tag inside before) tag' doc).tokens :=
          .outline _
        rwa [Outline.tokens, Content.tokens_element] at hdoc
    | @closes path name ts content hrest =>
      have hdoc : Continues (name :: path)
          ((Content.element tag inside content).tokens ++ .closing name :: ts) := .closes _ hrest
      rwa [Content.tokens_element] at hdoc

theorem continues_of_fits (h : Fits path ts) : Continues path ts := by
  induction ts generalizing path with
  | nil => exact .outline (.ended .nil)
  | cons t ts ih =>
    cases t with
    | empty tag => exact (ih h).empty tag
    | opening tag => exact (ih h).opening
    | closing name =>
      obtain ⟨outer, rfl, hrest⟩ := h
      exact .closes .nil (ih hrest)

theorem exists_outline (h : Fits [] ts) : ∃ doc : Outline, doc.tokens = ts := by
  generalize hpath : ([] : List String) = path at h
  cases continues_of_fits h with
  | outline doc => exact ⟨doc, rfl⟩
  | closes => cases hpath

end Existence

end RunConditions.Xml
