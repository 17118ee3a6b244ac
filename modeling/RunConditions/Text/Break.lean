/-!
# Breaking texts at marks

Readers cut a text before the first occurrence of a mark. What is left behind
the cut is never longer than the text, which ends their recursions.
-/

set_option autoImplicit false

namespace RunConditions.Text

def breakOn (mark : List Char) : List Char → Option (List Char × List Char)
  | [] => none
  | c :: rest =>
    if mark.isPrefixOf (c :: rest) then some ([], (c :: rest).drop mark.length)
    else (breakOn mark rest).map fun (before, after) => (c :: before, after)

theorem breakOn_shorter {mark cs before after : List Char}
    (h : breakOn mark cs = some (before, after)) : after.length ≤ cs.length := by
  induction cs generalizing before with
  | nil => simp [breakOn] at h
  | cons c rest ih =>
    rw [breakOn] at h
    split at h
    · simp only [Option.some.injEq, Prod.mk.injEq] at h
      simp [← h.2]
    · obtain ⟨⟨b, a⟩, hb, hp⟩ := Option.map_eq_some_iff.1 h
      simp only [Prod.mk.injEq] at hp
      have := ih (hp.2 ▸ hb)
      simp; omega

theorem length_dropWhile_le {α : Type} (p : α → Bool) (xs : List α) :
    (xs.dropWhile p).length ≤ xs.length :=
  (List.dropWhile_sublist p).length_le

end RunConditions.Text
