import RunConditions.Kind
import RunConditions.Value
import RunConditions.Xml.Fault

/-!
# Errors

Every failure names its cause as data. The wording of all of them is in this
module: `Error.message` is the whole text, and `Error.causes` lists what lies
behind it, outermost first.
-/

set_option autoImplicit false

namespace RunConditions

inductive Misconfiguration where
  | noClass (table : String) (role : Role)
  | badAttribute (fault : Xml.AttributeFault)
  | badAttributeValue (name : String) (fault : Xml.ReferenceFault)
  | missingAttribute (element name : String)
  | outsideTable (element : String)
  | noSection (name : String)
  | missingProperty (key : String)
  | badPort (text : String) (fault : Numeral.Fault)
  | unsupportedDriver (name : String)
  | noParameters
  | refused (reason : String)
  | noField (field table : String)
  | nullField (field table : String)
  | wrongType (field table expected : String) (got : Value)
  | outOfRange (field table : String) (n : Int)
  | fieldNotColumn (field table : String)
  | unknownType (name : String)
  | wrongRole (name : String) (is wanted : Role)
  | duplicateTable (name : String)
  | rowMismatch (collection table object : String)
  | noRecordConverter
  | noRecordTable
  | unknownRecordTable (record : Int) (table : String)
  | otherCollection (table holds : String) (wanted : Kind)
  | noConditionsTable
  | noConditionsTableData (table : String)
  | wrongPayload (kind : Kind) (returned : String)
  | notConfigured
  | noTableData (table : String)
  | noColumns (table : String)
  | noRows (table : String)
  | raggedRow (row values columns : Nat)
  | unknownTable (table : String)
  | usedCollection (id : Int) (table : String)
  | emptyRunRange (first last : Int)
  deriving DecidableEq

def Misconfiguration.message : Misconfiguration → String
  | noClass table role =>
    "The table " ++ table ++ " has no " ++
      (match role with | .object => "object" | .collection => "collection"
                       | .converter => "converter") ++ " class."
  | badAttribute fault => "Bad attribute in configuration: " ++ fault.message
  | badAttributeValue name fault => "Bad value for attribute " ++ name ++ ": " ++ fault.message
  | missingAttribute element name =>
    "The " ++ element ++ " element is missing its " ++ name ++ " attribute."
  | outsideTable element => "The " ++ element ++ " element must be inside a table element."
  | noSection name => "The configuration has no " ++ name ++ " section."
  | missingProperty key => "Missing required connection property '" ++ key ++ "'."
  | badPort text fault => "Bad connection port '" ++ text ++ "': " ++ fault.message
  | unsupportedDriver name => "Unsupported database driver '" ++ name ++ "'."
  | noParameters => "The connection parameters were not configured."
  | refused reason => reason
  | noField field table => "The field " ++ field ++ " does not exist in table " ++ table ++ "."
  | nullField field table => "The field " ++ field ++ " in table " ++ table ++ " is null."
  | wrongType field table expected got =>
    "The field " ++ field ++ " in table " ++ table ++ " should be " ++ expected ++ " but is " ++
      got.describe ++ "."
  | outOfRange field table n =>
    "The field " ++ field ++ " in table " ++ table ++ " is out of range: " ++ toString n
  | fieldNotColumn field table =>
    "The configured field " ++ field ++ " is not a column of table " ++ table ++ "."
  | unknownType name => "The type " ++ name ++ " was not found."
  | wrongRole name is .object =>
    "The type " ++ name ++ " is " ++ is.described ++ ", not a ConditionsObject."
  | wrongRole name is .collection =>
    "The type " ++ name ++ " is " ++ is.described ++ ", not a ConditionsObjectCollection."
  | wrongRole name is .converter =>
    "The converter type " ++ name ++ " is " ++ is.described ++
      ", which does not implement ConditionsConverter."
  | duplicateTable name => "The table " ++ name ++ " is defined more than once."
  | rowMismatch collection table object =>
    "The collection " ++ collection ++ " of table " ++ table ++
      " does not hold objects of type " ++ object ++ "."
  | noRecordConverter => "No converter was registered for ConditionsRecordCollection."
  | noRecordTable => "No table was configured for ConditionsRecordCollection."
  | unknownRecordTable record table =>
    "The conditions record " ++ toString record ++ " refers to the unknown table " ++ table ++ "."
  | otherCollection table holds wanted =>
    "The table " ++ table ++ " holds " ++ holds ++ ", not " ++ wanted.qualifiedName ++ "."
  | noConditionsTable => "The conditions table was not configured."
  | noConditionsTableData table => "No metadata for table " ++ table ++ "."
  | wrongPayload kind returned =>
    "The converter for " ++ kind.qualifiedName ++ " returned " ++ returned ++ " instead."
  | notConfigured => "The conditions manager was not configured."
  | noTableData table => "There is no meta data for table " ++ table ++ "."
  | noColumns table => "No columns given for an insert into " ++ table ++ "."
  | noRows table => "No rows given for an insert into " ++ table ++ "."
  | raggedRow row values columns =>
    "Row " ++ toString row ++ " has " ++ toString values ++ " values but there are " ++
      toString columns ++ " columns."
  | unknownTable table => "There is no table named " ++ table ++ " in the configuration."
  | usedCollection id table =>
    "The collection id " ++ toString id ++ " already exists in table " ++ table ++ "."
  | emptyRunRange first last =>
    "The run range " ++ toString first ++ "-" ++ toString last ++ " is empty."

inductive Absence where
  | noRecord (name : String) (run : Int)
  | noDetector
  | noConverter (kind : Kind)
  | noParametersFor (detector : String) (run : Int)
  deriving DecidableEq

def Absence.message : Absence → String
  | noRecord name run =>
    "No conditions record named " ++ name ++ " is valid for run " ++ toString run ++ "."
  | noDetector => "No detector has been set."
  | noConverter kind => "No converter is registered for " ++ kind.qualifiedName ++ "."
  | noParametersFor detector run =>
    "No connection parameters were set, so conditions for detector " ++ detector ++ " and run " ++
      toString run ++ " cannot be loaded."

inductive DatabaseFault where
  | notOpen
  | alreadyClosed (connection : String)
  | closedPool
  | server (text : String)
  | unsupportedColumn (type column : String)
  | badCollectionId (value : Value)
  | noGeneratedKey
  | badGeneratedKey (cell : Option (Option Value))
  | other (text : String)
  deriving DecidableEq

namespace DatabaseFault

def cellText : Option (Option Value) → String
  | none => "None"
  | some none => "Some(None)"
  | some (some v) => "Some(Some(" ++ v.describe ++ "))"

def unsupportedText (type column : String) : String :=
  "Unsupported column type " ++ type ++ " for column " ++ column ++ "."

def message : DatabaseFault → String
  | notOpen => "The database connection is not open."
  | alreadyClosed connection => "connection " ++ connection ++ " is already closed"
  | closedPool => "attempted to acquire a connection on a closed pool"
  | server text => "error returned from database: " ++ text
  | unsupportedColumn type column =>
    "error occurred while decoding: " ++ unsupportedText type column
  | badCollectionId value => "unexpected collection id " ++ value.display
  | noGeneratedKey => "the insert returned no generated key"
  | badGeneratedKey cell => "Expected an integer generated key but got " ++ cellText cell ++ "."
  | other text => text

def chain (f : DatabaseFault) : List String :=
  f.message :: match f with
    | server text => [text]
    | unsupportedColumn type column => [unsupportedText type column]
    | _ => []

end DatabaseFault

inductive ResourceFault where
  | noConfigurationFile (path : String)
  | noPropertiesFile (path : String)
  | noInputFile (path : String)
  | emptyInputFile (path : String)
  | noEmbedded (name : String)
  | noResourcePath (name : String)
  | notFoundFor (name path : String)
  deriving DecidableEq

def ResourceFault.message : ResourceFault → String
  | noConfigurationFile path => "The configuration file does not exist: " ++ path
  | noPropertiesFile path => "The connection properties file does not exist: " ++ path
  | noInputFile path => "Input file does not exist: " ++ path
  | emptyInputFile path => "The file " ++ path ++ " is empty."
  | noEmbedded name => "The resource " ++ name ++ " does not exist."
  | noResourcePath name => "No resource path is set, so " ++ name ++ " cannot be located."
  | notFoundFor name path => "The resource " ++ name ++ " was not found for " ++ path ++ "."

inductive FileFault where
  | isDirectory
  | notUtf8
  deriving DecidableEq

def FileFault.message : FileFault → String
  | isDirectory => "Is a directory (os error 21)"
  | notUtf8 => "stream did not contain valid UTF-8"

/-- All that can go wrong. `tooDeep` ends a lookup whose converters ask for
further conditions without end. -/
inductive Error where
  | configuration (cause : Misconfiguration)
  | notFound (cause : Absence)
  | query (sql : String) (fault : DatabaseFault)
  | connection (target : String) (fault : DatabaseFault)
  | resource (fault : ResourceFault)
  | io (fault : FileFault)
  | xml (fault : Xml.Fault)
  | tooDeep (kind : Kind) (name : String)
  deriving DecidableEq

namespace Error

def message : Error → String
  | configuration cause => "Conditions configuration error: " ++ cause.message
  | notFound cause => "Conditions not found: " ++ cause.message
  | query sql fault => "Error in SQL query \"" ++ sql ++ "\": " ++ fault.message
  | connection target fault => "Failed to connect to " ++ target ++ ": " ++ fault.message
  | resource fault => "Conditions resource error: " ++ fault.message
  | io fault => "Conditions I/O error: " ++ fault.message
  | xml fault => "Malformed conditions configuration: " ++ fault.message
  | tooDeep kind name =>
    "The lookup of " ++ name ++ " as " ++ kind.qualifiedName ++ " does not end."

def causes : Error → List String
  | query _ fault => fault.chain
  | connection _ fault => fault.chain
  | io fault => [fault.message]
  | xml fault => [fault.message, fault.detail]
  | _ => []

end Error
end RunConditions
