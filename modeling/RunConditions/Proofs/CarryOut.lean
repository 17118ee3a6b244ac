import RunConditions.Manager.Lookup
import RunConditions.Proofs.Alike

/-!
# Carrying out plans

Carrying out turns a plan into a step of the manager, and it does so piece by
piece: a plan that goes on with another one becomes a step that goes on with
another one. What is true of every request is true of every plan.
-/

set_option autoImplicit false

namespace RunConditions
namespace Manager

variable {b : Backend} {α β : Type} {look look' : (k : Kind) → String → Step b k.Data}

@[simp]
theorem carryOut_pure (a : α) : carryOut look (pure a) = pure a := rfl

@[simp]
theorem carryOut_ofExcept (r : Except Error α) :
    carryOut look (Plan.ofExcept r) = conclude r := by
  cases r <;> rfl

@[simp]
theorem carryOut_ofOption (e : Error) (o : Option α) :
    carryOut look (Plan.ofOption e o) =
      match o with
      | some a => pure a
      | none => throw e := by
  cases o <;> rfl

theorem carryOut_request (q : Request) :
    carryOut look (Plan.request q) = perform look q := by
  calc carryOut look (Plan.request q)
      = attempt (perform look q) >>= conclude := by
        rw [Plan.request, carryOut]
        congr 1
        funext r
        cases r <;> rfl
    _ = perform look q := attempt_bind_conclude _

@[simp]
theorem carryOut_view :
    @carryOut b View look (Plan.request .view) = get >>= fun m => pure m.view :=
  carryOut_request .view

@[simp]
theorem carryOut_lookup (k : Kind) (name : String) :
    @carryOut b k.Data look (Plan.request (.lookup k name)) = look k name :=
  carryOut_request (.lookup k name)

@[simp]
theorem carryOut_select (sql : String) :
    @carryOut b ResultSet look (Plan.request (.select sql)) = select sql :=
  carryOut_request (.select sql)

@[simp]
theorem carryOut_openText (name : String) :
    @carryOut b String look (Plan.request (.openText name)) = openText name :=
  carryOut_request (.openText name)

@[simp]
theorem carryOut_bind (p : Plan α) (f : α → Plan β) :
    carryOut look (p >>= f) = carryOut look p >>= fun a => carryOut look (f a) := by
  induction p with
  | done a => rfl
  | fail e => rfl
  | ask q next ih =>
    funext m
    show carryOut look (.ask q fun answer => (next answer).bind f) m = _
    simp only [carryOut, bind_apply]
    cases attempt (perform look q) m with
    | ok r m' =>
      have hr := congrFun (ih r) m'
      rw [bind_apply] at hr
      exact hr
    | error e m' => rfl

theorem carryOut_alike {b' : Backend} {look' : (k : Kind) → String → Step b' k.Data}
    {R : Manager b → Manager b' → Prop}
    (h : ∀ q, Alike R (perform look q) (perform look' q)) (p : Plan α) :
    Alike R (carryOut look p) (carryOut look' p) := by
  induction p with
  | done a => exact Alike.pure a
  | fail e => exact Alike.throw e
  | ask q next ih => exact (h q).attempt.bind ih

theorem materialize_apply (k : Kind) (name : String) (m : Manager b) :
    materialize look k name m =
      match m.converters.find? k with
      | none => .error (.notFound (.noConverter k)) m
      | some c =>
        match carryOut look (c.plan name) m with
        | .error e t => .error e t
        | .ok payload t =>
          match payload.as? k with
          | none => .error (.configuration (.wrongPayload k c.outputName)) t
          | some data => .ok data (t.cached k name payload) := by
  simp only [materialize, bind_apply, get_apply]
  cases m.converters.find? k with
  | none => rfl
  | some c =>
    simp only [bind_apply]
    cases carryOut look (c.plan name) m with
    | error e t => rfl
    | ok payload t =>
      dsimp only
      cases payload.as? k <;> rfl

theorem materialize_both {P : Manager b → Prop} {k : Kind} {name : String}
    (hplan : ∀ m c, P m → m.converters.find? k = some c →
      Alike (Both P) (carryOut look (c.plan name)) (carryOut look' (c.plan name)))
    (hcached : ∀ m m' c payload, P m → m.converters.find? k = some c →
      carryOut look (c.plan name) m = .ok payload m' → P m' → payload.kind = k →
      P (m'.cached k name payload)) :
    Alike (Both P) (materialize look k name) (materialize look' k name) := by
  rintro m _ ⟨rfl, hp⟩
  rw [outcome, outcome, final, final, materialize_apply, materialize_apply]
  cases hc : m.converters.find? k with
  | none => exact ⟨rfl, rfl, hp⟩
  | some c =>
    rcases (hplan m c hp hc).cases ⟨rfl, hp⟩ with
      ⟨payload, t, t', hx, hy, rfl, hpt⟩ | ⟨e, t, t', hx, hy, rfl, hpt⟩
    · dsimp only
      rw [hx, hy]
      cases ha : payload.as? k with
      | none => exact ⟨by simp only [ha], by simp only [ha], by simpa only [ha] using hpt⟩
      | some data =>
        have hkind : payload.kind = k := congrArg Payload.kind (Payload.as?_eq_some_iff.mp ha)
        have hnew := hcached m t c payload hp hc hx hpt hkind
        exact ⟨by simp only [ha], by simp only [ha], by simpa only [ha] using hnew⟩
    · dsimp only
      rw [hx, hy]
      exact ⟨rfl, rfl, hpt⟩

theorem lookup_both {P : Manager b → Prop}
    (hmade : ∀ depth k name,
      (∀ k name, Alike (Both P) (lookup depth k name) (lookup depth k name)) →
        Alike (Both P) (materialize (lookup depth) k name) (materialize (lookup depth) k name))
    (depth : Nat) (k : Kind) (name : String) :
    Alike (Both P) (lookup depth k name) (lookup depth k name) := by
  induction depth generalizing k name with
  | zero =>
    refine Alike.get_bind ?_
    rintro m _ ⟨rfl, -⟩
    cases m.cache.data? k name with
    | none => exact Alike.throw _
    | some data => exact Alike.pure data
  | succ depth ih =>
    refine Alike.get_bind ?_
    rintro m _ ⟨rfl, -⟩
    cases m.cache.data? k name with
    | none => exact hmade depth k name ih
    | some data => exact Alike.pure data

theorem lookup_apply_of_cached {k : Kind} {name : String} {m : Manager b} {data : k.Data}
    (h : m.cache.data? k name = some data) (depth : Nat) : lookup depth k name m = .ok data m := by
  cases depth <;> simp only [lookup, bind_apply, get_apply, h, pure_apply]

theorem lookup_apply_of_not_cached {k : Kind} {name : String} {m : Manager b}
    (h : m.cache.data? k name = none) (depth : Nat) :
    lookup (depth + 1) k name m = materialize (lookup depth) k name m := by
  simp only [lookup, bind_apply, get_apply, h]

theorem getConditions_apply_of_cached {k : Kind} {name : String} {m : Manager b} {data : k.Data}
    (h : m.cache.data? k name = some data) : getConditions k name m = .ok data m :=
  lookup_apply_of_cached h nestingLimit

theorem getConditions_apply_of_not_cached {k : Kind} {name : String} {m : Manager b}
    (h : m.cache.data? k name = none) :
    getConditions k name m = materialize (lookup 255) k name m :=
  lookup_apply_of_not_cached h 255

end Manager
end RunConditions
