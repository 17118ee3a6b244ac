import RunConditions.Plan
import RunConditions.Sql.Statement

/-!
# Converters

A converter makes one kind of conditions data. Three sorts ship. One reads all
conditions records, whatever name is asked for. One selects the rows that the
records give for the current run. One reads a detector description through the
base reader. A converter may declare another kind than that of the data it
makes, and the manager finds this out when it carries out the plan.
-/

set_option autoImplicit false

namespace RunConditions

structure Converter where
  output : Kind
  outputName : String := output.qualifiedName
  plan : String → Plan Payload

def Plan.findRecords (name : String) : Plan (Collection Record) := do
  let view ← Plan.request .view
  let table ← Plan.ofOption (.configuration .notConfigured) view.conditionsTable
  let all ← Plan.request (.lookup .records table)
  return all.named name

namespace Converter

def honest (k : Kind) (plan : String → Plan k.Data) : Converter :=
  { output := k, plan := fun name => do return ⟨k, ← plan name⟩ }

def recordsPlan : Plan (Collection Record) := do
  let view ← Plan.request .view
  let name ← Plan.ofOption (.configuration .noConditionsTable) view.conditionsTable
  let table ←
    Plan.ofOption (.configuration (.noConditionsTableData name)) (view.tables.find? name)
  let result ← Plan.request (.select (Sql.Statement.selectAll table.name table.key).text)
  Plan.ofExcept (table.read .record result)

/-- The rows of the table and collection that the latest record with this name
gives for the current run. -/
def selectedPlan (c : CollectionType) (name : String) : Plan (Collection c.row.Row) := do
  let run := (← Plan.request .view).run
  let records ← Plan.findRecords name
  let record ←
    Plan.ofOption (.notFound (.noRecord name run)) (records.validFor run).latest?
  let view ← Plan.request .view
  let table ←
    Plan.ofOption (.configuration (.unknownRecordTable record.id record.table))
      (view.tables.find? record.table)
  if table.collection ≠ c then
    Plan.fail
      (.configuration (.otherCollection table.name table.collectionName (.collection c)))
  else
    let sql := (Sql.Statement.selectCollection table.name record.collection).text
    let result ← Plan.request (.select sql)
    let rows ← Plan.ofExcept (table.read c.row result)
    return rows.withId record.collection

def detectorPlan (name : String) : Plan Detector := do
  let view ← Plan.request .view
  let detector ← Plan.ofOption (.notFound .noDetector) view.detector
  let xml ← Plan.request (.openText name)
  return { name := detector, xml }

def records : Converter := honest .records fun _ => recordsPlan

def selected (c : CollectionType) : Converter := honest (.collection c) (selectedPlan c)

def detector : Converter := honest .detector detectorPlan

end Converter

structure Converters where
  list : List Converter := []

namespace Converters

def find? (cs : Converters) (k : Kind) : Option Converter :=
  cs.list.find? (·.output == k)

def contains (cs : Converters) (k : Kind) : Bool :=
  (cs.find? k).isSome

/-- A later converter for the same kind replaces the earlier one. -/
def register (cs : Converters) (c : Converter) : Converters :=
  ⟨c :: cs.list.filter (·.output != c.output)⟩

end Converters
end RunConditions
