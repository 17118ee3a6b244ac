import RunConditions.Proofs.Cache
import RunConditions.Proofs.Operation
import RunConditions.Proofs.Shipped

/-!
# Lookups one by one

Callers look conditions up, and so do the plans of converters. All lookups of a
run are listed in the order in which they end, each with what it answers, the
manager before and after it, and whether a converter has run for it.
-/

set_option autoImplicit false

namespace RunConditions
namespace Manager

structure Lookup (b : Backend) where
  kind : Kind
  name : String
  before : Manager b
  /-- Whether the plan of a converter has been carried out for it. -/
  ran : Bool
  answer : Except Error Payload
  after : Manager b

/-- What callers do, and changes that the database side makes by itself. -/
inductive Move (b : Backend) where
  | call (op : Operation)
  | drift (world : b.World)

section Listing

variable {b : Backend} {α : Type}

def requested (within : (k : Kind) → String → Manager b → List (Lookup b)) :
    Request → Manager b → List (Lookup b)
  | .lookup kind name, m => within kind name m
  | _, _ => []

def carriedOut (look : (k : Kind) → String → Step b k.Data)
    (within : (k : Kind) → String → Manager b → List (Lookup b)) :
    Plan α → Manager b → List (Lookup b)
  | .done _, _ => []
  | .fail _, _ => []
  | .ask q next, m =>
    requested within q m ++
      carriedOut look within (next (outcome (perform look q) m)) (final (perform look q) m)

def lookedUp (look : (k : Kind) → String → Step b k.Data) (ran : Bool) (kind : Kind)
    (name : String) (m : Manager b) : Lookup b where
  kind := kind
  name := name
  before := m
  ran := ran
  answer := (outcome (look kind name) m).map (Payload.mk kind)
  after := final (look kind name) m

/-- A lookup behind those that the converter makes in turn. -/
def lookups : Nat → (kind : Kind) → String → Manager b → List (Lookup b)
  | 0, kind, name, m => [lookedUp (lookup 0) false kind name m]
  | depth + 1, kind, name, m =>
    match m.cache.data? kind name, m.converters.find? kind with
    | none, some c =>
      carriedOut (lookup depth) (lookups depth) (c.plan name) m ++
        [lookedUp (lookup (depth + 1)) true kind name m]
    | _, _ => [lookedUp (lookup (depth + 1)) false kind name m]

end Listing

end Manager

namespace Operation

variable {b : Backend}

def lookups : Operation → Manager b → List (Manager.Lookup b)
  | getConditions kind name => Manager.lookups Manager.nestingLimit kind name
  | getDetector =>
    Manager.lookups Manager.nestingLimit .detector Manager.detectorDescription
  | findRecords name =>
    Manager.carriedOut Manager.getConditions (Manager.lookups Manager.nestingLimit)
      (Plan.findRecords name)
  | _ => fun _ => []

end Operation

namespace Manager

variable {b : Backend} {α β : Type}

namespace Move

def final : Move b → Manager b → Manager b
  | call op, m => RunConditions.final op.run m
  | drift world, m => m.moved world

def lookups : Move b → Manager b → List (Lookup b)
  | call op, m => op.lookups m
  | drift _, _ => []

end Move

def lookupsOf : List (Move b) → Manager b → List (Lookup b)
  | [], _ => []
  | move :: moves, m => move.lookups m ++ lookupsOf moves (move.final m)

/-- How a lookup that allows so many more levels goes, and whether a converter runs for it. -/
inductive Lookup.Course (e : Lookup b) : Nat → Prop
  | cached {depth : Nat} {data : e.kind.Data}
      (hdata : e.before.cache.data? e.kind e.name = some data) (hran : e.ran = false)
      (hanswer : e.answer = .ok ⟨e.kind, data⟩) (hafter : e.after = e.before) : Course e depth
  | tooDeep (hnone : e.before.cache.data? e.kind e.name = none) (hran : e.ran = false)
      (hanswer : e.answer = .error (.tooDeep e.kind e.name)) (hafter : e.after = e.before) :
      Course e 0
  | noConverter {depth : Nat} (hnone : e.before.cache.data? e.kind e.name = none)
      (hc : e.before.converters.find? e.kind = none) (hran : e.ran = false)
      (hanswer : e.answer = .error (.notFound (.noConverter e.kind)))
      (hafter : e.after = e.before) : Course e (depth + 1)
  | materialized {depth : Nat} {c : Converter}
      (hnone : e.before.cache.data? e.kind e.name = none)
      (hc : e.before.converters.find? e.kind = some c) (hran : e.ran = true)
      (hanswer : e.answer =
        (outcome (materialize (lookup depth) e.kind e.name) e.before).map (Payload.mk e.kind))
      (hafter : e.after = RunConditions.final (materialize (lookup depth) e.kind e.name) e.before) :
      Course e (depth + 1)

section LookedUp

variable {look : (k : Kind) → String → Step b k.Data} {kind : Kind} {name : String} {m : Manager b}

theorem lookedUp_of_ok {data : kind.Data} (h : look kind name m = .ok data m) (ran : Bool) :
    (lookedUp look ran kind name m).answer = .ok ⟨kind, data⟩ ∧
      (lookedUp look ran kind name m).after = m := by
  simp only [lookedUp, outcome, RunConditions.final, h, Except.map, and_self]

theorem lookedUp_of_error {e : Error} (h : look kind name m = .error e m) (ran : Bool) :
    (lookedUp look ran kind name m).answer = .error e ∧
      (lookedUp look ran kind name m).after = m := by
  simp only [lookedUp, outcome, RunConditions.final, h, Except.map, and_self]

theorem course_lookedUp_of_cached {data : kind.Data} (h : m.cache.data? kind name = some data)
    (depth : Nat) : (lookedUp (lookup depth) false kind name m).Course depth := by
  obtain ⟨hanswer, hafter⟩ := lookedUp_of_ok (lookup_apply_of_cached h depth) false
  exact .cached h rfl hanswer hafter

end LookedUp

theorem mem_carriedOut {look : (k : Kind) → String → Step b k.Data}
    {within : (k : Kind) → String → Manager b → List (Lookup b)} {p : Plan α} {m : Manager b}
    {e : Lookup b} (h : e ∈ carriedOut look within p m) : ∃ k name m', e ∈ within k name m' := by
  induction p generalizing m with
  | done a => cases h
  | fail error => cases h
  | ask q next ih =>
    rcases List.mem_append.mp h with h | h
    · cases q with
      | lookup k name => exact ⟨k, name, m, h⟩
      | _ => cases h
    · exact ih _ h

theorem course_of_mem {depth : Nat} {kind : Kind} {name : String} {m : Manager b} {e : Lookup b}
    (h : e ∈ lookups depth kind name m) : ∃ d ≤ depth, e.Course d := by
  induction depth generalizing kind name m with
  | zero =>
    obtain rfl := List.mem_singleton.mp h
    refine ⟨0, Nat.le_refl 0, ?_⟩
    cases hdata : m.cache.data? kind name with
    | some data => exact course_lookedUp_of_cached hdata 0
    | none =>
      have hlook : lookup 0 kind name m = .error (.tooDeep kind name) m := by
        simp only [lookup, bind_apply, get_apply, hdata, throw_apply]
      obtain ⟨hanswer, hafter⟩ := lookedUp_of_error hlook false
      exact .tooDeep hdata rfl hanswer hafter
  | succ depth ih =>
    rw [lookups] at h
    cases hdata : m.cache.data? kind name with
    | some data =>
      rw [hdata] at h
      obtain rfl := List.mem_singleton.mp h
      exact ⟨depth + 1, Nat.le_refl _, course_lookedUp_of_cached hdata _⟩
    | none =>
      have hlook := lookup_apply_of_not_cached hdata depth
      cases hc : m.converters.find? kind with
      | none =>
        rw [hdata, hc] at h
        obtain rfl := List.mem_singleton.mp h
        rw [materialize_apply, hc] at hlook
        obtain ⟨hanswer, hafter⟩ := lookedUp_of_error hlook false
        exact ⟨depth + 1, Nat.le_refl _, .noConverter hdata hc rfl hanswer hafter⟩
      | some c =>
        rw [hdata, hc] at h
        rcases List.mem_append.mp h with hnested | hlast
        · obtain ⟨k, name', m', hmem⟩ := mem_carriedOut hnested
          obtain ⟨d, hd, hcourse⟩ := ih hmem
          exact ⟨d, Nat.le_succ_of_le hd, hcourse⟩
        · obtain rfl := List.mem_singleton.mp hlast
          refine ⟨depth + 1, Nat.le_refl _, .materialized hdata hc rfl ?_ ?_⟩
          · simp only [lookedUp, outcome, hlook]
          · simp only [lookedUp, RunConditions.final, hlook]

/-- A converter runs for a lookup of a run just if the lookup carries its plan out: nothing is
cached for it, a level is left, and it ends as the data that are made then. Any other lookup has
a cached answer or no converter, or goes too deep, and leaves the manager as it was. -/
theorem course_of_mem_lookupsOf {moves : List (Move b)} {m : Manager b} {e : Lookup b}
    (h : e ∈ lookupsOf moves m) : ∃ d, e.Course d := by
  induction moves generalizing m with
  | nil => cases h
  | cons move moves ih =>
    rcases List.mem_append.mp h with h | h
    · cases move with
      | drift world => cases h
      | call op =>
        cases op with
        | getConditions kind name => exact (course_of_mem h).imp fun _ => And.right
        | getDetector => exact (course_of_mem h).imp fun _ => And.right
        | findRecords name =>
          obtain ⟨k, name', m', hmem⟩ := mem_carriedOut h
          exact (course_of_mem hmem).imp fun _ => And.right
        | _ => cases h
    · exact ih h

theorem Lookup.Course.ran_iff {e : Lookup b} {depth : Nat} (h : e.Course depth) :
    e.ran = true ↔ 0 < depth ∧ e.before.cache.data? e.kind e.name = none ∧
      (e.before.converters.find? e.kind).isSome = true := by
  cases h with
  | cached hdata hran => simp [hran, hdata]
  | tooDeep hnone hran => simp [hran]
  | noConverter hnone hc hran => simp [hran, hc]
  | materialized hnone hc hran => simp [hran, hnone, hc]

section Plans

variable {look : (k : Kind) → String → Step b k.Data}
  {within : (k : Kind) → String → Manager b → List (Lookup b)} {m : Manager b}

theorem carryOut_ask (q : Request) (next : Except Error q.Answer → Plan α) (m : Manager b) :
    carryOut look (.ask q next) m =
      carryOut look (next (outcome (perform look q) m))
        (RunConditions.final (perform look q) m) := by
  rw [carryOut, bind_apply, apply_eq_ok (outcome_attempt _ _), final_attempt]

/-- What a plan looks up before it goes on, and what it looks up then. -/
theorem carriedOut_bind (p : Plan α) (f : α → Plan β) (m : Manager b) :
    carriedOut look within (p >>= f) m = carriedOut look within p m ++
      match carryOut look p m with
      | .ok a m' => carriedOut look within (f a) m'
      | .error _ _ => [] := by
  induction p generalizing m with
  | done a => rfl
  | fail e => rfl
  | ask q next ih =>
    rw [carryOut_ask, carriedOut, List.append_assoc, ← ih]
    rfl

def Alone (look : (k : Kind) → String → Step b k.Data)
    (within : (k : Kind) → String → Manager b → List (Lookup b)) (p : Plan α) : Prop :=
  ∀ m, carriedOut look within p m = []

theorem carriedOut_bind_alone {p : Plan α} {f : α → Plan β}
    (hf : ∀ a, Alone look within (f a)) (m : Manager b) :
    carriedOut look within (p >>= f) m = carriedOut look within p m := by
  rw [carriedOut_bind]
  cases carryOut look p m with
  | ok a m' => exact (congrArg _ (hf a m')).trans (List.append_nil _)
  | error e m' => exact List.append_nil _

theorem Alone.bind {p : Plan α} {f : α → Plan β} (hp : Alone look within p)
    (hf : ∀ a, Alone look within (f a)) : Alone look within (p >>= f) := by
  intro m
  rw [carriedOut_bind_alone hf, hp]

theorem alone_pure (a : α) : Alone look within (pure a : Plan α) :=
  fun _ => rfl

theorem alone_ofExcept (r : Except Error α) : Alone look within (Plan.ofExcept r) := by
  cases r <;> exact fun _ => rfl

theorem alone_ofOption (e : Error) (o : Option α) : Alone look within (Plan.ofOption e o) := by
  cases o <;> exact fun _ => rfl

theorem carriedOut_request (q : Request) (m : Manager b) :
    carriedOut look within (Plan.request q) m = requested within q m := by
  rw [Plan.request, carriedOut]
  cases outcome (perform look q) m <;> simp [carriedOut]

theorem alone_request {q : Request} (hq : ∀ k name, q ≠ .lookup k name) :
    Alone look within (Plan.request q) := by
  intro m
  rw [carriedOut_request]
  cases q with
  | lookup k name => exact absurd rfl (hq k name)
  | _ => rfl

theorem alone_view : Alone look within (Plan.request .view) :=
  alone_request fun _ _ h => by cases h

theorem alone_select (sql : String) : Alone look within (Plan.request (.select sql)) :=
  alone_request fun _ _ h => by cases h

theorem alone_recordsPlan : Alone look within Converter.recordsPlan := by
  apply alone_view.bind
  intro view
  apply (alone_ofOption _ _).bind
  intro name
  apply (alone_ofOption _ _).bind
  intro table
  apply (alone_select _).bind
  intro result
  exact alone_ofExcept _

theorem alone_detectorPlan (name : String) : Alone look within (Converter.detectorPlan name) := by
  apply alone_view.bind
  intro view
  apply (alone_ofOption _ _).bind
  intro detector
  apply (alone_request fun _ _ h => by cases h).bind
  intro xml
  exact alone_pure _

theorem carriedOut_view_bind (f : View → Plan α) (m : Manager b) :
    carriedOut look within (Plan.request .view >>= f) m = carriedOut look within (f m.view) m := by
  rw [carriedOut_bind, alone_view m, carryOut_view]
  rfl

theorem carriedOut_some_bind (e : Error) (a : α) (f : α → Plan β) (m : Manager b) :
    carriedOut look within (Plan.ofOption e (some a) >>= f) m = carriedOut look within (f a) m :=
  rfl

theorem carriedOut_findRecords (name : String) (m : Manager b) :
    carriedOut look within (Plan.findRecords name) m =
      match m.conditionsTable with
      | none => []
      | some table => within .records table m := by
  rw [Plan.findRecords, carriedOut_view_bind, view]
  cases m.conditionsTable with
  | none => rfl
  | some table =>
    rw [carriedOut_some_bind, carriedOut_bind_alone fun _ => alone_pure _, carriedOut_request]
    rfl

theorem carriedOut_selectedPlan (c : CollectionType) (name : String) (m : Manager b) :
    carriedOut look within (Converter.selectedPlan c name) m =
      carriedOut look within (Plan.findRecords name) m := by
  rw [Converter.selectedPlan, carriedOut_view_bind]
  apply carriedOut_bind_alone
  intro records
  apply (alone_ofOption _ _).bind
  intro record
  apply alone_view.bind
  intro view
  apply (alone_ofOption _ _).bind
  intro table
  split
  · exact fun _ => rfl
  · apply (alone_select _).bind
    intro result
    apply (alone_ofExcept _).bind
    intro rows
    exact alone_pure _

end Plans

end Manager
end RunConditions
