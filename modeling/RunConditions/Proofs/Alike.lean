import RunConditions.Database.Backend

/-!
# Steps side by side

What a step answers and the state that it leaves are read off its result. A
step keeps a property of states when it ends in a state with the property
whether it fails or not. Two steps go alike for a relation between states when
from related states they answer the same and end in related states.
-/

set_option autoImplicit false

namespace RunConditions

variable {σ τ α β : Type}

section Running

@[simp]
theorem pure_apply (a : α) (s : σ) : (pure a : EStateM Error σ α) s = .ok a s := rfl

@[simp]
theorem throw_apply (e : Error) (s : σ) : (throw e : EStateM Error σ α) s = .error e s := rfl

@[simp]
theorem get_apply (s : σ) : (get : EStateM Error σ σ) s = .ok s s := rfl

@[simp]
theorem set_apply (t s : σ) : (set t : EStateM Error σ PUnit) s = .ok ⟨⟩ t := rfl

@[simp]
theorem modify_apply (f : σ → σ) (s : σ) :
    (modify f : EStateM Error σ PUnit) s = .ok ⟨⟩ (f s) := rfl

@[simp]
theorem bind_apply (x : EStateM Error σ α) (f : α → EStateM Error σ β) (s : σ) :
    (x >>= f) s = match x s with
      | .ok a t => f a t
      | .error e t => .error e t := by
  show EStateM.bind x f s = _
  unfold EStateM.bind
  cases x s <;> rfl

@[simp]
theorem conclude_ok (a : α) : (conclude (.ok a) : EStateM Error σ α) = pure a := rfl

@[simp]
theorem conclude_error (e : Error) : (conclude (.error e) : EStateM Error σ α) = throw e := rfl

theorem eq_ok_of_toOption {x : Except Error α} {a : α} (h : x.toOption = some a) : x = .ok a := by
  cases x with
  | error e => cases h
  | ok a' => rw [Option.some.inj h]

end Running

def outcome (x : EStateM Error σ α) (s : σ) : Except Error α :=
  match x s with
  | .ok a _ => .ok a
  | .error e _ => .error e

def final (x : EStateM Error σ α) (s : σ) : σ :=
  match x s with
  | .ok _ t => t
  | .error _ t => t

theorem apply_eq_ok {x : EStateM Error σ α} {s : σ} {a : α} (h : outcome x s = .ok a) :
    x s = .ok a (final x s) := by
  simp only [outcome, final] at h ⊢
  cases hx : x s <;> simp_all

theorem apply_eq_error {x : EStateM Error σ α} {s : σ} {e : Error} (h : outcome x s = .error e) :
    x s = .error e (final x s) := by
  simp only [outcome, final] at h ⊢
  cases hx : x s <;> simp_all

section Going

variable {x : EStateM Error σ α} {f : α → EStateM Error σ β} {s : σ}

theorem outcome_bind_of_ok {a : α} (h : outcome x s = .ok a) :
    outcome (x >>= f) s = outcome (f a) (final x s) := by
  rw [outcome, bind_apply, apply_eq_ok h]
  rfl

theorem final_bind_of_ok {a : α} (h : outcome x s = .ok a) :
    final (x >>= f) s = final (f a) (final x s) := by
  rw [final, bind_apply, apply_eq_ok h]
  rfl

theorem final_bind_of_error {e : Error} (h : outcome x s = .error e) :
    final (x >>= f) s = final x s := by
  rw [final, bind_apply, apply_eq_error h]

theorem outcome_bind_eq_ok {c : β} (h : outcome (x >>= f) s = .ok c) :
    ∃ a, outcome x s = .ok a ∧ outcome (f a) (final x s) = .ok c := by
  cases hx : outcome x s with
  | ok a =>
    rw [outcome_bind_of_ok hx] at h
    exact ⟨a, rfl, h⟩
  | error e =>
    rw [outcome, bind_apply, apply_eq_error hx] at h
    cases h

end Going

theorem outcome_attempt (x : EStateM Error σ α) (s : σ) :
    outcome (attempt x) s = .ok (outcome x s) := by
  simp only [outcome, attempt]
  cases x s <;> rfl

theorem final_attempt (x : EStateM Error σ α) (s : σ) : final (attempt x) s = final x s := by
  simp only [final, attempt]
  cases x s <;> rfl

theorem attempt_bind_conclude (x : EStateM Error σ α) : (attempt x >>= conclude) = x := by
  funext s
  rw [bind_apply]
  simp only [attempt]
  cases x s <;> rfl

def Keeps (P : σ → Prop) (x : EStateM Error σ α) : Prop :=
  ∀ s, P s → P (final x s)

def Alike (R : σ → τ → Prop) (x : EStateM Error σ α) (y : EStateM Error τ α) : Prop :=
  ∀ s t, R s t → outcome x s = outcome y t ∧ R (final x s) (final y t)

namespace Alike

variable {R : σ → τ → Prop}

theorem pure (a : α) : Alike R (pure a : EStateM Error σ α) (pure a) :=
  fun _ _ h => ⟨rfl, h⟩

theorem throw (e : Error) : Alike R (throw e : EStateM Error σ α) (throw e) :=
  fun _ _ h => ⟨rfl, h⟩

theorem conclude (r : Except Error α) :
    Alike R (conclude r : EStateM Error σ α) (RunConditions.conclude r) := by
  cases r with
  | ok a => exact pure a
  | error e => exact throw e

theorem modify {f : σ → σ} {g : τ → τ} (h : ∀ s t, R s t → R (f s) (g t)) :
    Alike R (modify f : EStateM Error σ PUnit) (modify g) :=
  fun s t hr => ⟨rfl, h s t hr⟩

theorem bind {x : EStateM Error σ α} {y : EStateM Error τ α} {f : α → EStateM Error σ β}
    {g : α → EStateM Error τ β} (hx : Alike R x y) (hf : ∀ a, Alike R (f a) (g a)) :
    Alike R (x >>= f) (y >>= g) := by
  intro s t h
  obtain ⟨ho, hr⟩ := hx s t h
  cases hs : outcome x s with
  | ok a =>
    have hx' := apply_eq_ok hs
    have hy' := apply_eq_ok (ho ▸ hs)
    have hnext := hf a _ _ hr
    simp only [outcome, final] at hnext ⊢
    simpa only [bind_apply, hx', hy'] using hnext
  | error e =>
    have hx' := apply_eq_error hs
    have hy' := apply_eq_error (ho ▸ hs)
    simp only [outcome, final] at hr ⊢
    simp only [bind_apply, hx', hy'] at hr ⊢
    exact ⟨trivial, hr⟩

theorem get_bind {f : σ → EStateM Error σ β} {g : τ → EStateM Error τ β}
    (h : ∀ s t, R s t → Alike R (f s) (g t)) : Alike R (get >>= f) (get >>= g) :=
  fun s t hr => h s t hr s t hr

theorem cases {x : EStateM Error σ α} {y : EStateM Error τ α} (h : Alike R x y) {s : σ} {t : τ}
    (hr : R s t) :
    (∃ a s' t', x s = .ok a s' ∧ y t = .ok a t' ∧ R s' t') ∨
      ∃ e s' t', x s = .error e s' ∧ y t = .error e t' ∧ R s' t' := by
  obtain ⟨ho, hf⟩ := h s t hr
  cases hs : outcome x s with
  | ok a => exact Or.inl ⟨a, _, _, apply_eq_ok hs, apply_eq_ok (ho ▸ hs), hf⟩
  | error e => exact Or.inr ⟨e, _, _, apply_eq_error hs, apply_eq_error (ho ▸ hs), hf⟩

theorem attempt {x : EStateM Error σ α} {y : EStateM Error τ α} (h : Alike R x y) :
    Alike R (attempt x) (attempt y) := by
  intro s t hr
  simp only [outcome_attempt, final_attempt]
  exact ⟨by rw [(h s t hr).1], (h s t hr).2⟩

end Alike

def Both (P : σ → Prop) (s t : σ) : Prop :=
  s = t ∧ P s

theorem Keeps.alike {P : σ → Prop} {x : EStateM Error σ α} (h : Keeps P x) :
    Alike (Both P) x x := by
  rintro s _ ⟨rfl, hp⟩
  exact ⟨rfl, rfl, h s hp⟩

theorem Alike.keeps {P : σ → Prop} {x y : EStateM Error σ α} (h : Alike (Both P) x y) :
    Keeps P x :=
  fun s hp => (h s s ⟨rfl, hp⟩).2.2

namespace Keeps

variable {P : σ → Prop}

theorem pure (a : α) : Keeps P (pure a : EStateM Error σ α) :=
  fun _ hp => hp

theorem throw (e : Error) : Keeps P (throw e : EStateM Error σ α) :=
  fun _ hp => hp

theorem conclude (r : Except Error α) : Keeps P (conclude r : EStateM Error σ α) := by
  cases r with
  | ok a => exact pure a
  | error e => exact throw e

theorem bind {x : EStateM Error σ α} {f : α → EStateM Error σ β} (hx : Keeps P x)
    (hf : ∀ a, Keeps P (f a)) : Keeps P (x >>= f) :=
  (hx.alike.bind fun a => (hf a).alike).keeps

theorem final_bind {x : EStateM Error σ α} {f : α → EStateM Error σ β} {s : σ} (hx : P (final x s))
    (hf : ∀ a, Keeps P (f a)) : P (final (x >>= f) s) := by
  rw [final] at hx
  rw [final, bind_apply]
  cases h : x s with
  | error e t => rwa [h] at hx
  | ok a t =>
    rw [h] at hx
    exact hf a t hx

theorem get_bind {f : σ → EStateM Error σ β} (hf : ∀ s, P s → Keeps P (f s)) :
    Keeps P (get >>= f) :=
  fun s hp => hf s hp s hp

end Keeps

theorem Alike.apply_eq {P : σ → Prop} {x y : EStateM Error σ α} (h : Alike (Both P) x y) {s : σ}
    (hp : P s) : x s = y s := by
  rcases h.cases ⟨rfl, hp⟩ with ⟨a, s', t', hx, hy, rfl, -⟩ | ⟨e, s', t', hx, hy, rfl, -⟩ <;>
    rw [hx, hy]

end RunConditions
