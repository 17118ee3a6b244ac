import RunConditions.Config
import RunConditions.Converter

/-!
# Names of types in a configuration

Each name that a configuration may use stands for a row type, for a collection
type, or for a converter. Looking a name up checks that it stands for the right
sort of thing, and a later registration of a name replaces the earlier one.
-/

set_option autoImplicit false

namespace RunConditions

inductive Registered where
  | object (r : RowType)
  | collection (c : CollectionType)
  | converter (c : Converter)

def Registered.role : Registered → Role
  | object _ => .object
  | collection _ => .collection
  | converter _ => .converter

structure Types where
  entries : List (String × Registered) := []

namespace Types

def register (ts : Types) (name : String) (what : Registered) : Types :=
  ⟨(name, what) :: ts.entries⟩

def find? (ts : Types) (name : String) : Option Registered :=
  ts.entries.lookup name

def contains (ts : Types) (name : String) : Bool :=
  (ts.find? name).isSome

def find (ts : Types) (name : String) : Except Error Registered :=
  match ts.find? name with
  | some what => .ok what
  | none => .error (.configuration (.unknownType name))

def object (ts : Types) (name : String) : Except Error RowType := do
  match ← ts.find name with
  | .object r => .ok r
  | other => .error (.configuration (.wrongRole name other.role .object))

def collection (ts : Types) (name : String) : Except Error CollectionType := do
  match ← ts.find name with
  | .collection c => .ok c
  | other => .error (.configuration (.wrongRole name other.role .collection))

def converter (ts : Types) (name : String) : Except Error Converter := do
  match ← ts.find name with
  | .converter c => .ok c
  | other => .error (.configuration (.wrongRole name other.role .converter))

def standard : Types :=
  ⟨[("ConditionsRecord", .object .record),
    ("ConditionsRecordCollection", .collection .record),
    ("ConditionsRecordConverter", .converter .records),
    ("DetectorConditionsConverter", .converter .detector),
    ("EcalGain", .object (.channel .gain)),
    ("EcalGainCollection", .collection (.channel .gain)),
    ("EcalGainConverter", .converter (.selected (.channel .gain))),
    ("EcalCalibration", .object (.channel .calibration)),
    ("EcalCalibrationCollection", .collection (.channel .calibration)),
    ("EcalCalibrationConverter", .converter (.selected (.channel .calibration))),
    ("EcalBadChannel", .object (.channel .badChannel)),
    ("EcalBadChannelCollection", .collection (.channel .badChannel)),
    ("EcalBadChannelConverter", .converter (.selected (.channel .badChannel)))]⟩

end Types

/-- Registers the named converters in order, up to the first that fails. -/
def Converters.load (types : Types) : List String → EStateM Error Converters Unit
  | [] => pure ()
  | name :: rest => do
    let c ← (match types.converter name with
      | .ok c => pure c
      | .error e => throw e)
    modify (·.register c)
    load types rest

def Converters.conditionsTable (cs : Converters) (tables : Tables) : Except Error String :=
  if cs.contains .records then
    match tables.ofCollection? .record with
    | some t => .ok t.name
    | none => .error (.configuration .noRecordTable)
  else .error (.configuration .noRecordConverter)

namespace Tables

def resolve (ts : Tables) (types : Types) (d : TableDescriptor) : Except Error Table := do
  if (ts.find? d.name).isSome then
    throw (.configuration (.duplicateTable d.name))
  let object ← types.object d.objectType
  let collection ← types.collection d.collectionType
  if collection.row ≠ object then
    throw (.configuration (.rowMismatch d.collectionType d.name d.objectType))
  return {
    name := d.name, key := d.key, collection, objectName := d.objectType
    collectionName := d.collectionType, fields := d.fields }

def load (types : Types) (descriptors : List TableDescriptor) : Except Error Tables :=
  descriptors.foldlM (fun ts d => do return ⟨ts.list ++ [← ts.resolve types d]⟩) {}

end Tables
end RunConditions
