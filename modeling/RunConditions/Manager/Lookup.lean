import RunConditions.Manager.State

/-!
# Looking conditions up

A lookup answers from the cache, or else carries out the plan of the converter
for the wanted kind and caches the data it makes. A plan may look up further
conditions. Such lookups are nested at most `nestingLimit` deep, and one that
would go deeper fails.
-/

set_option autoImplicit false

namespace RunConditions
namespace Manager

variable {b : Backend} {α : Type}

def perform (lookup : (k : Kind) → String → Step b k.Data) : (q : Request) → Step b q.Answer
  | .view => return (← get).view
  | .lookup kind name => lookup kind name
  | .openText name => openText name
  | .select sql => select sql
  | .update sql => update sql
  | .addRecord record => addRecord record
  | .connect => connect
  | .disconnect openedHere => disconnect openedHere
  | .forceDisconnect => forceDisconnect
  | .setParameters p => setParameters p
  | .setReader reader => setReader reader

def carryOut (lookup : (k : Kind) → String → Step b k.Data) : Plan α → Step b α
  | .done a => pure a
  | .fail e => throw e
  | .ask q next => do carryOut lookup (next (← attempt (perform lookup q)))

def cached (m : Manager b) (kind : Kind) (name : String) (payload : Payload) : Manager b :=
  { m with cache := m.cache.insert ⟨kind, name, payload, m.detector, m.run⟩ }

/-- Makes conditions data with the converter of their kind and caches them. -/
def materialize (lookup : (k : Kind) → String → Step b k.Data) (kind : Kind) (name : String) :
    Step b kind.Data := do
  match (← get).converters.find? kind with
  | none => throw (.notFound (.noConverter kind))
  | some converter =>
    let payload ← carryOut lookup (converter.plan name)
    match payload.as? kind with
    | none => throw (.configuration (.wrongPayload kind converter.outputName))
    | some data =>
      modify fun m => m.cached kind name payload
      return data

/-- A lookup that allows `depth` more levels of lookups within lookups. -/
def lookup : Nat → (kind : Kind) → String → Step b kind.Data
  | 0, kind, name => do
    match (← get).cache.data? kind name with
    | some data => return data
    | none => throw (.tooDeep kind name)
  | depth + 1, kind, name => do
    match (← get).cache.data? kind name with
    | some data => return data
    | none => materialize (lookup depth) kind name

def nestingLimit : Nat := 256

def getConditions (kind : Kind) (name : String) : Step b kind.Data :=
  lookup nestingLimit kind name

def execute (plan : Plan α) : Step b α :=
  carryOut getConditions plan

def findRecords (name : String) : Step b (Collection Record) :=
  execute (Plan.findRecords name)

def detectorDescription : String := "compact.xml"

def getDetector : Step b Detector :=
  getConditions .detector detectorDescription

end Manager
end RunConditions
