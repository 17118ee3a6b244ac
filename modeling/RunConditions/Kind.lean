/-!
# Kinds of conditions data

Tables hold rows of two sorts. A conditions record says which data hold for
which runs. A channel row holds the quantities measured for one calorimeter
channel, and the tables that ship are three cases of it. The data that can be
asked for are collections of rows, detector descriptions and plain texts. Each
kind has a qualified name, which messages show.
-/

set_option autoImplicit false

namespace RunConditions

structure ChannelType where
  name : String
  quantities : List String
  deriving DecidableEq, Repr

def ChannelType.gain : ChannelType := ⟨"EcalGain", ["gain"]⟩

def ChannelType.calibration : ChannelType := ⟨"EcalCalibration", ["pedestal", "noise"]⟩

def ChannelType.badChannel : ChannelType := ⟨"EcalBadChannel", []⟩

inductive RowType where
  | record
  | channel (t : ChannelType)
  deriving DecidableEq, Repr

namespace RowType

def name : RowType → String
  | record => "ConditionsRecord"
  | channel t => t.name

def qualifiedName : RowType → String
  | record => "hps_conditions::model::conditions_record::ConditionsRecord"
  | channel t => "hps_conditions::model::ecal::" ++ t.name

end RowType

/-- A type of collections. Each row type ships with one, and others may be registered for the
same rows under names of their own. -/
inductive CollectionType where
  | record
  | channel (t : ChannelType)
  | own (qualifiedName : String) (r : RowType)
  deriving DecidableEq, Repr

namespace CollectionType

abbrev row : CollectionType → RowType
  | record => .record
  | channel t => .channel t
  | own _ r => r

def qualifiedName : CollectionType → String
  | own name _ => name
  | c => "hps_conditions::model::conditions_object::ObjectCollection<" ++ c.row.qualifiedName ++ ">"

end CollectionType

inductive Kind where
  | collection (c : CollectionType)
  | detector
  | text
  deriving DecidableEq, Repr

namespace Kind

abbrev records : Kind := .collection .record

def qualifiedName : Kind → String
  | collection c => c.qualifiedName
  | detector => "hps_conditions::model::resource_reader::DetectorDescription"
  | text => "alloc::string::String"

end Kind

inductive Role where
  | object
  | collection
  | converter
  deriving DecidableEq, Repr

def Role.described : Role → String
  | object => "a conditions object"
  | collection => "a conditions collection"
  | converter => "a conditions converter"

end RunConditions
