import RunConditions.Proofs.Shipped

/-!
# Which requests a plan makes

A plan is known by the requests that it can make, whatever they are answered.
Plans that are put together make the requests of their parts. Those of the
converters that ship do nothing but read.
-/

set_option autoImplicit false

namespace RunConditions

variable {α β : Type}

/-- Requests that only find something out. -/
def Request.reads : Request → Bool
  | view | lookup _ _ | openText _ | select _ => true
  | _ => false

/-- Every request that the plan can make is one of these. -/
def Plan.Only (allowed : Request → Bool) : Plan α → Prop
  | done _ => True
  | fail _ => True
  | ask q next => allowed q = true ∧ ∀ answer, (next answer).Only allowed

namespace Plan.Only

variable {allowed allowed' : Request → Bool}

theorem mono (h : ∀ q, allowed q = true → allowed' q = true) {p : Plan α}
    (hp : p.Only allowed) : p.Only allowed' := by
  induction p with
  | done a => trivial
  | fail e => trivial
  | ask q next ih => exact ⟨h q hp.1, fun answer => ih answer (hp.2 answer)⟩

theorem bind {p : Plan α} {f : α → Plan β} (hp : p.Only allowed)
    (hf : ∀ a, (f a).Only allowed) : (p >>= f).Only allowed := by
  induction p with
  | done a => exact hf a
  | fail e => trivial
  | ask q next ih => exact ⟨hp.1, fun answer => ih answer (hp.2 answer)⟩

theorem pure (a : α) : (Pure.pure a : Plan α).Only allowed := trivial

theorem request {q : Request} (hq : allowed q = true) : (Plan.request q).Only allowed := by
  refine ⟨hq, fun answer => ?_⟩
  cases answer <;> trivial

theorem ofExcept (r : Except Error α) : (Plan.ofExcept r).Only allowed := by
  cases r <;> trivial

theorem ofOption (e : Error) (o : Option α) : (Plan.ofOption e o).Only allowed := by
  cases o <;> trivial

end Plan.Only

theorem Manager.carryOut_keeps {b : Backend} {P : Manager b → Prop}
    {look : (k : Kind) → String → Step b k.Data} {allowed : Request → Bool}
    (hperform : ∀ q : Request, allowed q = true → Keeps P (perform look q))
    {p : Plan α} (hp : p.Only allowed) : Keeps P (carryOut look p) := by
  induction p with
  | done a => exact fun _ hm => hm
  | fail e => exact fun _ hm => hm
  | ask q next ih =>
    apply (hperform q hp.1).alike.attempt.keeps.bind
    intro answer
    exact ih answer (hp.2 answer)

theorem Plan.findRecords_reads (name : String) :
    (Plan.findRecords name).Only Request.reads := by
  apply Plan.Only.bind (.request rfl)
  intro view
  apply Plan.Only.bind (.ofOption _ _)
  intro table
  apply Plan.Only.bind (.request rfl)
  intro all
  exact .pure _

namespace Converter

theorem recordsPlan_reads : recordsPlan.Only Request.reads := by
  apply Plan.Only.bind (.request rfl)
  intro view
  apply Plan.Only.bind (.ofOption _ _)
  intro name
  apply Plan.Only.bind (.ofOption _ _)
  intro table
  apply Plan.Only.bind (.request rfl)
  intro result
  exact .ofExcept _

theorem selectedPlan_reads (c : CollectionType) (name : String) :
    (selectedPlan c name).Only Request.reads := by
  apply Plan.Only.bind (.request rfl)
  intro view
  apply Plan.Only.bind (Plan.findRecords_reads name)
  intro records
  apply Plan.Only.bind (.ofOption _ _)
  intro record
  apply Plan.Only.bind (.request rfl)
  intro view'
  apply Plan.Only.bind (.ofOption _ _)
  intro table
  split
  · exact trivial
  · apply Plan.Only.bind (.request rfl)
    intro result
    apply Plan.Only.bind (.ofExcept _)
    intro rows
    exact .pure _

theorem detectorPlan_reads (name : String) : (detectorPlan name).Only Request.reads := by
  apply Plan.Only.bind (.request rfl)
  intro view
  apply Plan.Only.bind (.ofOption _ _)
  intro detector
  apply Plan.Only.bind (.request rfl)
  intro xml
  exact .pure _

theorem shipped_reads {k : Kind} {c : Converter} (h : shipped k = some c) (name : String) :
    (c.plan name).Only Request.reads := by
  cases k with
  | text => cases h
  | detector =>
    cases h
    exact (detectorPlan_reads name).bind fun _ => .pure _
  | collection rows =>
    by_cases hrows : rows = .record
    · subst hrows
      cases h
      exact recordsPlan_reads.bind fun _ => .pure _
    · rw [shipped_collection hrows] at h
      cases h
      exact (selectedPlan_reads rows name).bind fun _ => .pure _

end Converter
end RunConditions
