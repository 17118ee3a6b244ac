import RunConditions.Xml.Token

/-!
# Token rows of whole documents

Reading a document takes one step after the other until nothing is left or a
step fails. Every step leaves less to read, so the row ends. A byte order mark
in front of the document is passed over.
-/

set_option autoImplicit false

namespace RunConditions.Xml
open Text

theorem skipDoctype_shorter {cs rest : List Char} (h : skipDoctype cs = .ok rest) :
    rest.length ≤ cs.length := by
  unfold skipDoctype at h
  split at h
  · split at h
    · simp at h
    · rename_i content after hb
      split at h
      · simp at h
      · have := breakDoctype_shorter hb
        simp only [Except.ok.injEq] at h
        simp only [List.length_drop] at this
        subst h
        omega
  · simp at h

theorem skipDeclaration_shorter {cs rest : List Char} (h : skipDeclaration cs = .ok rest) :
    rest.length ≤ cs.length := by
  unfold skipDeclaration at h
  split at h
  · split at h
    · split at h
      · rename_i hb
        have := breakOn_shorter hb
        simp_all; omega
      · simp at h
    · simp at h
  · split at h
    · rename_i hb
      have := breakOn_shorter hb
      simp_all; omega
    · simp at h
  · simp at h
  · have := skipDoctype_shorter h
    simp; omega
  · have := skipDoctype_shorter h
    simp; omega
  · simp at h

theorem skipInstruction_shorter {cs rest : List Char} (h : skipInstruction cs = .ok rest) :
    rest.length ≤ cs.length := by
  unfold skipInstruction at h
  split at h
  · simp at h
  · split at h
    · rename_i hb
      have := breakOn_shorter hb
      simp_all
    · simp at h

theorem skipReference_shorter {cs rest : List Char} (h : skipReference cs = .ok rest) :
    rest.length ≤ cs.length := by
  unfold skipReference at h
  split at h
  · rename_i hd
    have := length_dropWhile_le (fun c => !(c == ';' || c == '&' || c == '<')) cs
    simp_all; omega
  · simp at h

theorem readTag_shorter {cs rest : List Char} {token : Token}
    (h : readTag cs = .ok (token, rest)) : rest.length ≤ cs.length := by
  unfold readTag at h
  split at h <;> split at h <;>
    first
    | (rename_i hb
       have := breakTag_shorter hb
       simp_all; omega)
    | simp at h

theorem step_shorter {c : Char} {cs rest : List Char} {token : Option Token}
    (h : step (c :: cs) = .ok (token, rest)) : rest.length < (c :: cs).length := by
  have map_ok {α β : Type} {f : α → β} {x : Except Fault α} {b : β}
      (hx : x.map f = .ok b) : ∃ a, x = .ok a ∧ f a = b := by
    cases x with
    | error e => simp [Except.map] at hx
    | ok a => exact ⟨a, rfl, by simpa [Except.map] using hx⟩
  unfold step at h
  split at h
  · simp_all
  · obtain ⟨after, hs, hp⟩ := map_ok h
    obtain ⟨-, rfl⟩ := Prod.mk.inj hp
    have := skipDeclaration_shorter hs
    grind
  · obtain ⟨after, hs, hp⟩ := map_ok h
    obtain ⟨-, rfl⟩ := Prod.mk.inj hp
    have := skipInstruction_shorter hs
    grind
  · obtain ⟨⟨tag, after⟩, hs, hp⟩ := map_ok h
    obtain ⟨-, rfl⟩ := Prod.mk.inj hp
    have := readTag_shorter hs
    grind
  · obtain ⟨after, hs, hp⟩ := map_ok h
    obtain ⟨-, rfl⟩ := Prod.mk.inj hp
    have := skipReference_shorter hs
    grind
  · simp_all

/-- The tokens up to the first fault, and that fault if there is one. -/
def tokens : List Char → List Token × Option Fault
  | [] => ([], none)
  | c :: cs =>
    match _ : step (c :: cs) with
    | .error fault => ([], some fault)
    | .ok (none, rest) => tokens rest
    | .ok (some token, rest) =>
      let (more, fault) := tokens rest
      (token :: more, fault)
termination_by cs => cs.length
decreasing_by all_goals exact step_shorter (by assumption)

def dropMark : List Char → List Char
  | '\uFEFF' :: cs => cs
  | cs => cs

end RunConditions.Xml
