import RunConditions.Proofs.Setup

/-!
# What the converters that ship do

The plans of the three converters, carried out by the manager. Reading the
records and reading a detector description look nothing else up.
-/

set_option autoImplicit false

namespace RunConditions

/-- The converter for a kind that is of one of the sorts that ship. -/
def Converter.shipped : Kind → Option Converter
  | .collection .record => some .records
  | .collection c => some (.selected c)
  | .detector => some .detector
  | .text => none

theorem Converter.shipped_collection {c : CollectionType} (hc : c ≠ .record) :
    shipped (.collection c) = some (.selected c) := by
  cases c with
  | record => exact absurd rfl hc
  | channel t => rfl
  | own name r => rfl

def Converter.Ships (c : Converter) : Prop :=
  c = .records ∨ c = .detector ∨ ∃ rows, c = .selected rows

theorem Converter.ships_of_shipped {k : Kind} {c : Converter} (h : shipped k = some c) :
    c.Ships := by
  cases k with
  | text => cases h
  | detector =>
    cases h
    exact Or.inr (Or.inl rfl)
  | collection rows =>
    by_cases hrows : rows = .record
    · subst hrows
      cases h
      exact Or.inl rfl
    · rw [shipped_collection hrows] at h
      cases h
      exact Or.inr (Or.inr ⟨rows, rfl⟩)

theorem Types.standard_shipped {name : String} {c : Converter}
    (h : Types.standard.converter name = .ok c) : Converter.shipped c.output = some c := by
  have hmem := Types.converter_mem h
  simp only [Types.standard, List.mem_cons, Prod.mk.injEq, Registered.converter.injEq,
    reduceCtorEq, and_false, false_or, List.not_mem_nil, or_false] at hmem
  rcases hmem with ⟨-, rfl⟩ | ⟨-, rfl⟩ | ⟨-, rfl⟩ | ⟨-, rfl⟩ | ⟨-, rfl⟩ <;> rfl

namespace Manager

variable {b : Backend} {look : (k : Kind) → String → Step b k.Data}

def Shipped (m : Manager b) : Prop :=
  ∀ k c, m.converters.find? k = some c → Converter.shipped k = some c

theorem setUp_shipped {config : Config} {s : Setup} (hs : setup .standard config = .ok s)
    (m : Manager b) : (m.setUp s).Shipped := by
  intro k c hc
  obtain ⟨hmem, rfl⟩ := Converters.mem_of_find? hc
  exact setup_converters (P := fun c => Converter.shipped c.output = some c)
    (fun _ _ => Types.standard_shipped) rfl hs c hmem

def readRecords (t : Table) : Step b (Collection Record) := do
  let result ← select (Sql.Statement.selectAll t.name t.key).text
  conclude (t.read .record result)

theorem carryOut_recordsPlan (m : Manager b) :
    carryOut look Converter.recordsPlan m =
      match m.conditionsTable with
      | none => .error (.configuration .noConditionsTable) m
      | some name =>
        match m.tables.find? name with
        | none => .error (.configuration (.noConditionsTableData name)) m
        | some t => readRecords t m := by
  simp only [Converter.recordsPlan, carryOut_bind, carryOut_view, carryOut_ofOption,
    carryOut_select, carryOut_ofExcept, bind_apply, get_apply, pure_apply, view]
  cases m.conditionsTable with
  | none => rfl
  | some name =>
    dsimp only [pure_apply]
    cases m.tables.find? name with
    | none => rfl
    | some t =>
      simp only [pure_apply, readRecords, bind_apply]

theorem carryOut_findRecords (name : String) (m : Manager b) :
    carryOut look (Plan.findRecords name) m =
      match m.conditionsTable with
      | none => .error (.configuration .notConfigured) m
      | some table =>
        match look .records table m with
        | .error e t => .error e t
        | .ok all t => .ok (all.named name) t := by
  simp only [Plan.findRecords, carryOut_bind, carryOut_view, carryOut_ofOption, carryOut_pure,
    bind_apply, get_apply, pure_apply, view]
  cases m.conditionsTable with
  | none => rfl
  | some table =>
    dsimp only [pure_apply]
    have hlookup : @carryOut b Kind.records.Data look (.request (.lookup .records table)) =
        look .records table := carryOut_lookup .records table
    rw [hlookup]
    cases look .records table m <;> rfl

def readSelected (c : CollectionType) (record : Record) : Step b (Collection c.row.Row) := do
  match (← get).tables.find? record.table with
  | none => throw (.configuration (.unknownRecordTable record.id record.table))
  | some t =>
    if t.collection ≠ c then
      throw (.configuration (.otherCollection t.name t.collectionName (.collection c)))
    else
      let result ← select (Sql.Statement.selectCollection t.name record.collection).text
      let rows ← conclude (t.read c.row result)
      return rows.withId record.collection

theorem carryOut_selectedPlan (c : CollectionType) (name : String) (m : Manager b) :
    carryOut look (Converter.selectedPlan c name) m =
      match carryOut look (Plan.findRecords name) m with
      | .error e t => .error e t
      | .ok records t =>
        match (records.validFor m.run).latest? with
        | none => .error (.notFound (.noRecord name m.run)) t
        | some record => readSelected c record t := by
  simp only [Converter.selectedPlan, carryOut_bind, carryOut_view, bind_apply, get_apply,
    pure_apply, view]
  cases carryOut look (Plan.findRecords name) m with
  | error e t => rfl
  | ok records t =>
    simp only [carryOut_ofOption]
    cases (records.validFor m.run).latest? with
    | none => rfl
    | some record =>
      simp only [readSelected, bind_apply, get_apply, pure_apply]
      cases t.tables.find? record.table with
      | none => rfl
      | some u =>
        dsimp only [pure_apply]
        split
        · rfl
        · simp only [carryOut_bind, carryOut_select, carryOut_ofExcept, carryOut_pure]

theorem carryOut_detectorPlan (name : String) (m : Manager b) :
    carryOut look (Converter.detectorPlan name) m =
      match m.detector with
      | none => .error (.notFound .noDetector) m
      | some detector =>
        match m.reader.openText name with
        | .error e => .error e m
        | .ok xml => .ok { name := detector, xml } m := by
  simp only [Converter.detectorPlan, carryOut_bind, carryOut_view, carryOut_ofOption,
    carryOut_openText, carryOut_pure, bind_apply, get_apply, pure_apply, view, openText]
  cases m.detector with
  | none => rfl
  | some detector =>
    dsimp only [pure_apply]
    cases m.reader.openText name <;> rfl

theorem carryOut_honest (k : Kind) (plan : String → Plan k.Data) (name : String) :
    carryOut look ((Converter.honest k plan).plan name) =
      carryOut look (plan name) >>= fun data => pure ⟨k, data⟩ := by
  show carryOut look (plan name >>= fun data => pure (Payload.mk k data)) = _
  rw [carryOut_bind]
  rfl

theorem materialize_apply_of_honest {k : Kind} {plan : String → Plan k.Data} {m : Manager b}
    (hc : m.converters.find? k = some (.honest k plan)) (name : String) :
    materialize look k name m =
      match carryOut look (plan name) m with
      | .error e t => .error e t
      | .ok data t => .ok data (t.cached k name ⟨k, data⟩) := by
  rw [materialize_apply, hc]
  simp only [carryOut_honest, bind_apply]
  cases carryOut look (plan name) m with
  | error e t => rfl
  | ok data t =>
    dsimp only [pure_apply]
    rw [Payload.as?_mk]

theorem keeps_detectorPlan {P : Manager b → Prop} (name : String) :
    Keeps P (carryOut look (Converter.detectorPlan name)) := by
  intro m hm
  rw [final, carryOut_detectorPlan]
  cases m.detector with
  | none => exact hm
  | some detector =>
    dsimp only
    cases m.reader.openText name <;> exact hm

/-- Of the database, plans ask for the table of the records and for the rows of configured
tables. If that keeps a property, so do the plans. -/
structure Askable (P : Manager b → Prop) : Prop where
  records : ∀ {m name t}, P m → m.conditionsTable = some name → m.tables.find? name = some t →
    P (final (select (Sql.Statement.selectAll t.name t.key).text) m)
  rows : ∀ {m name t} (collection : Int), P m → m.tables.find? name = some t →
    P (final (select (Sql.Statement.selectCollection t.name collection).text) m)

namespace Askable

variable {P : Manager b → Prop} (ha : Askable P)
include ha

theorem recordsPlan : Keeps P (carryOut look Converter.recordsPlan) := by
  intro m hm
  rw [final, carryOut_recordsPlan]
  cases hname : m.conditionsTable with
  | none => exact hm
  | some name =>
    dsimp only
    cases ht : m.tables.find? name with
    | none => exact hm
    | some t => exact Keeps.final_bind (ha.records hm hname ht) fun _ => .conclude _

theorem readSelected (c : CollectionType) (record : Record) :
    Keeps P (Manager.readSelected c record) := by
  intro m hm
  rw [final, Manager.readSelected, bind_apply, get_apply]
  dsimp only
  cases ht : m.tables.find? record.table with
  | none => exact hm
  | some t =>
    dsimp only
    by_cases hother : t.collection ≠ c
    · rw [if_pos hother]
      exact hm
    · rw [if_neg hother]
      exact Keeps.final_bind (ha.rows record.collection hm ht) fun result =>
        (Keeps.conclude (t.read c.row result)).bind fun _ => .pure _

omit ha in
theorem findRecords (hlook : ∀ name, Keeps P (look .records name)) (name : String) :
    Keeps P (carryOut look (Plan.findRecords name)) := by
  intro m hm
  rw [final, carryOut_findRecords]
  cases m.conditionsTable with
  | none => exact hm
  | some table =>
    have hrecords := hlook table m hm
    rw [final] at hrecords
    dsimp only
    cases hfound : look .records table m with
    | error e t =>
      rw [hfound] at hrecords
      exact hrecords
    | ok all t =>
      rw [hfound] at hrecords
      exact hrecords

theorem selectedPlan (hlook : ∀ name, Keeps P (look .records name)) (c : CollectionType)
    (name : String) : Keeps P (carryOut look (Converter.selectedPlan c name)) := by
  intro m hm
  have hrecords := findRecords hlook name m hm
  rw [final, carryOut_selectedPlan]
  rw [final] at hrecords
  cases hfound : carryOut look (Plan.findRecords name) m with
  | error e t =>
    rw [hfound] at hrecords
    exact hrecords
  | ok records t =>
    rw [hfound] at hrecords
    dsimp only
    cases (records.validFor m.run).latest? with
    | none => exact hrecords
    | some record => exact ha.readSelected c record t hrecords

theorem plan (hlook : ∀ name, Keeps P (look .records name)) {c : Converter} (hc : c.Ships)
    (name : String) : Keeps P (carryOut look (c.plan name)) := by
  obtain rfl | rfl | ⟨rows, rfl⟩ := hc
  · rw [Converter.records, carryOut_honest]
    exact ha.recordsPlan.bind fun _ => .pure _
  · rw [Converter.detector, carryOut_honest]
    exact (keeps_detectorPlan name).bind fun _ => .pure _
  · rw [Converter.selected, carryOut_honest]
    exact (ha.selectedPlan hlook rows name).bind fun _ => .pure _

end Askable

end Manager
end RunConditions
