import Mathlib.Data.List.Forall2

/-!
# One after the other

Working through a list succeeds if it does so at each element, and brings what
these have brought in order. Otherwise it fails as it does at the first element
at which it fails. The elements of a list may be worked through by their places.
-/

set_option autoImplicit false

namespace RunConditions

variable {α β γ ε : Type}

/-- Something is wrong with an element of a list and nothing with the ones before it. -/
def FirstFailure (sound : α → Prop) (failure : α → β → Prop) (xs : List α) (e : β) : Prop :=
  ∃ before x after, xs = before ++ x :: after ∧ (∀ y ∈ before, sound y) ∧ failure x e

section FirstFailure

variable {sound sound' : α → Prop} {failure failure' : α → β → Prop} {xs : List α} {x : α} {e : β}

theorem not_firstFailure_nil : ¬ FirstFailure sound failure [] e := by
  rintro ⟨before, x, after, hxs, -⟩
  simp at hxs

theorem firstFailure_cons_iff :
    FirstFailure sound failure (x :: xs) e ↔
      failure x e ∨ sound x ∧ FirstFailure sound failure xs e := by
  constructor
  · rintro ⟨before, y, after, hxs, hbefore, hy⟩
    cases before with
    | nil =>
      obtain ⟨rfl, -⟩ := List.cons.inj hxs
      exact Or.inl hy
    | cons z before =>
      obtain ⟨rfl, hrest⟩ := List.cons.inj hxs
      obtain ⟨hz, hbefore⟩ := List.forall_mem_cons.mp hbefore
      exact Or.inr ⟨hz, before, y, after, hrest, hbefore, hy⟩
  · rintro (hx | ⟨hx, before, y, after, rfl, hbefore, hy⟩)
    · exact ⟨[], x, xs, rfl, by simp, hx⟩
    · exact ⟨x :: before, y, after, rfl, List.forall_mem_cons.mpr ⟨hx, hbefore⟩, hy⟩

theorem firstFailure_congr (hs : ∀ x, sound x ↔ sound' x)
    (hf : ∀ x e, failure x e ↔ failure' x e) :
    FirstFailure sound failure xs e ↔ FirstFailure sound' failure' xs e := by
  simp only [FirstFailure, hs, hf]

theorem firstFailure_append_iff {ys : List α} :
    FirstFailure sound failure (xs ++ ys) e ↔
      FirstFailure sound failure xs e ∨
        (∀ x ∈ xs, sound x) ∧ FirstFailure sound failure ys e := by
  induction xs with
  | nil => simp [not_firstFailure_nil]
  | cons x xs ih =>
    rw [List.cons_append, firstFailure_cons_iff, firstFailure_cons_iff, ih, List.forall_mem_cons,
      and_or_left, or_assoc, and_assoc]

theorem firstFailure_flatten_iff {xss : List (List α)} :
    FirstFailure sound failure xss.flatten e ↔
      FirstFailure (fun xs => ∀ x ∈ xs, sound x) (FirstFailure sound failure) xss e := by
  induction xss with
  | nil => simp [not_firstFailure_nil]
  | cons xs xss ih =>
    rw [List.flatten_cons, firstFailure_append_iff, firstFailure_cons_iff, ih]

theorem firstFailure_wrapped_iff {wrap : β → γ} {e : γ} :
    FirstFailure sound (fun x e => ∃ c, failure x c ∧ e = wrap c) xs e ↔
      ∃ c, FirstFailure sound failure xs c ∧ e = wrap c := by
  constructor
  · rintro ⟨before, x, after, hxs, hbefore, c, hc, he⟩
    exact ⟨c, ⟨before, x, after, hxs, hbefore, hc⟩, he⟩
  · rintro ⟨c, ⟨before, x, after, hxs, hbefore, hc⟩, he⟩
    exact ⟨before, x, after, hxs, hbefore, c, hc, he⟩

end FirstFailure

theorem exists_of_forall₂ {P : α → β → Prop} {xs : List α} {ys : List β}
    (hp : List.Forall₂ P xs ys) {y : β} (hy : y ∈ ys) : ∃ x ∈ xs, P x y := by
  induction hp with
  | nil => cases hy
  | @cons x y' xs ys hxy _ ih =>
    rcases List.mem_cons.mp hy with rfl | hy
    · exact ⟨x, List.mem_cons_self, hxy⟩
    · obtain ⟨x', hx', hp⟩ := ih hy
      exact ⟨x', List.mem_cons_of_mem x hx', hp⟩

theorem pairwise_of_forall₂ {P : α → β → Prop} {R : α → α → Prop} {S : β → β → Prop}
    {xs : List α} {ys : List β} (hp : List.Forall₂ P xs ys) (hxs : xs.Pairwise R)
    (h : ∀ x x' y y', P x y → P x' y' → R x x' → S y y') : ys.Pairwise S := by
  induction hp with
  | nil => exact .nil
  | @cons x y xs ys hxy hp ih =>
    obtain ⟨hx, hxs⟩ := List.pairwise_cons.mp hxs
    refine List.pairwise_cons.mpr ⟨fun y' hy' => ?_, ih hxs⟩
    obtain ⟨x', hx', hp'⟩ := exists_of_forall₂ hp hy'
    exact h x x' y y' hxy hp' (hx x' hx')

theorem forall₂_exists_iff {P : α → β → Prop} {Q : β → γ → Prop} {xs : List α} {zs : List γ} :
    List.Forall₂ (fun x z => ∃ y, P x y ∧ Q y z) xs zs ↔
      ∃ ys, List.Forall₂ P xs ys ∧ List.Forall₂ Q ys zs := by
  constructor
  · intro h
    induction h with
    | nil => exact ⟨[], .nil, .nil⟩
    | cons hxz _ ih =>
      obtain ⟨y, hxy, hyz⟩ := hxz
      obtain ⟨ys, hxs, hzs⟩ := ih
      exact ⟨y :: ys, .cons hxy hxs, .cons hyz hzs⟩
  · rintro ⟨ys, hxs, hzs⟩
    induction hxs generalizing zs with
    | nil => cases hzs; exact .nil
    | cons hxy _ ih =>
      obtain ⟨z, rest, hyz, hrest, rfl⟩ := List.forall₂_cons_left_iff.mp hzs
      exact .cons ⟨_, hxy, hyz⟩ (ih hrest)

section Working

variable {f : α → Except ε β} {xs : List α}

theorem mapM_cons_of_error {x : α} {e : ε} (h : f x = .error e) :
    (x :: xs).mapM f = .error e := by
  rw [List.mapM_cons, h]
  rfl

theorem mapM_cons_of_ok {x : α} {y : β} (h : f x = .ok y) :
    (x :: xs).mapM f = (xs.mapM f).map (y :: ·) := by
  rw [List.mapM_cons, h]
  cases xs.mapM f <;> rfl

theorem mapM_eq_ok_iff {ys : List β} :
    xs.mapM f = .ok ys ↔ List.Forall₂ (fun x y => f x = .ok y) xs ys := by
  induction xs generalizing ys with
  | nil => cases ys <;> simp [pure, Except.pure]
  | cons x xs ih =>
    cases hx : f x with
    | error e =>
      rw [mapM_cons_of_error hx, List.forall₂_cons_left_iff]
      simp [hx]
    | ok y =>
      rw [mapM_cons_of_ok hx, List.forall₂_cons_left_iff]
      simp only [hx, Except.ok.injEq, ← ih]
      cases xs.mapM f with
      | error e => simp [Except.map]
      | ok rest => simp [Except.map, eq_comm]

theorem mapM_eq_error_iff {e : ε} :
    xs.mapM f = .error e ↔
      FirstFailure (fun x => ∃ y, f x = .ok y) (fun x e => f x = .error e) xs e := by
  induction xs with
  | nil => simpa [pure, Except.pure] using not_firstFailure_nil
  | cons x xs ih =>
    rw [firstFailure_cons_iff, ← ih]
    cases hx : f x with
    | error e' => simp [mapM_cons_of_error hx]
    | ok y =>
      rw [mapM_cons_of_ok hx]
      cases xs.mapM f <;> simp [Except.map]

theorem exists_mapM_iff : (∃ ys, xs.mapM f = .ok ys) ↔ ∀ x ∈ xs, ∃ y, f x = .ok y := by
  simp only [mapM_eq_ok_iff]
  induction xs with
  | nil => simp
  | cons x xs ih =>
    rw [List.forall_mem_cons, ← ih]
    constructor
    · rintro ⟨ys, hys⟩
      obtain ⟨y, rest, hy, hrest, -⟩ := List.forall₂_cons_left_iff.mp hys
      exact ⟨⟨y, hy⟩, rest, hrest⟩
    · rintro ⟨⟨y, hy⟩, rest, hrest⟩
      exact ⟨y :: rest, .cons hy hrest⟩

theorem mapM_eq_mapM {α' : Type} {g : α' → Except ε β} {xs' : List α'}
    (h : List.Forall₂ (fun x x' => f x = g x') xs xs') : xs.mapM f = xs'.mapM g := by
  induction h with
  | nil => rfl
  | cons hx _ ih => rw [List.mapM_cons, List.mapM_cons, hx, ih]

theorem mapM_congr {g : α → Except ε β} (h : ∀ x ∈ xs, f x = g x) : xs.mapM f = xs.mapM g :=
  mapM_eq_mapM (List.forall₂_same.mpr h)

theorem mapM_range' {g : Nat → Except ε β} {start : Nat}
    (h : ∀ i x, xs[i]? = some x → g (start + i) = f x) :
    (List.range' start xs.length).mapM g = xs.mapM f := by
  induction xs generalizing start with
  | nil => rfl
  | cons x xs ih =>
    have hhead : g start = f x := h 0 x rfl
    have htail : (List.range' (start + 1) xs.length).mapM g = xs.mapM f := by
      apply ih
      intro i y hy
      rw [Nat.add_assoc, Nat.add_comm 1 i]
      exact h (i + 1) y hy
    rw [List.length_cons, List.range'_succ, List.mapM_cons, List.mapM_cons, hhead, htail]

end Working

section Outcome

variable {x y : Except ε α} {g : α → β}

theorem map_eq_bind : x.map g = x >>= fun a => pure (g a) := by
  cases x <;> rfl

theorem map_eq_error_iff {e : ε} : x.map g = .error e ↔ x = .error e := by
  cases x <;> simp [Except.map]

theorem map_eq_ok_iff (hg : Function.Injective g) {a : α} : x.map g = .ok (g a) ↔ x = .ok a := by
  cases x <;> simp [Except.map, hg.eq_iff]

theorem map_eq_map_iff (hg : Function.Injective g) : x.map g = y.map g ↔ x = y := by
  cases x <;> cases y <;> simp [Except.map, hg.eq_iff]

end Outcome

end RunConditions
