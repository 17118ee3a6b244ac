import RunConditions.Database.Link
import RunConditions.Manager.Cache
import RunConditions.Types

/-!
# The conditions manager

The manager holds the configuration, the link to the database, the reader for
everything else, and a cache of the data for the current detector and run. Each
operation is a step that changes the manager and succeeds or fails. A step that
fails says in its result what has changed nevertheless.
-/

set_option autoImplicit false

namespace RunConditions

structure Manager (b : Backend) where
  types : Types
  link : Link b
  reader : Reader
  tables : Tables := {}
  converters : Converters := Converters.register {} .detector
  conditionsTable : Option String := none
  cache : Cache := {}
  detector : Option String := none
  run : Int := -1
  configured : Bool := false
  shared : Bool := false

abbrev Step (b : Backend) : Type → Type :=
  EStateM Error (Manager b)

inductive Stage where
  | unconfigured
  | configured
  | connected
  deriving DecidableEq, Repr

namespace Manager

variable {b : Backend} {α : Type}

def new (types : Types) (reader : Reader) (world : b.World) : Manager b :=
  { types, reader, link := { world } }

def isConnected (m : Manager b) : Bool :=
  m.link.isConnected

def hasParameters (m : Manager b) : Bool :=
  m.link.parameters.isSome

def connectionString? (m : Manager b) : Option String :=
  m.link.parameters.map Parameters.connectionString

def stage (m : Manager b) : Stage :=
  if m.isConnected then .connected else if m.configured then .configured else .unconfigured

def cachedCount (m : Manager b) : Nat :=
  m.cache.count m.detector m.run

def view (m : Manager b) : View :=
  { run := m.run, detector := m.detector, conditionsTable := m.conditionsTable
    tables := m.tables, configured := m.configured, connected := m.isConnected
    connectionString := m.connectionString?, cached := m.cachedCount }

def onLink (x : EStateM Error (Link b) α) : Step b α := fun m =>
  match x m.link with
  | .ok a l => .ok a { m with link := l }
  | .error e l => .error e { m with link := l }

def connect : Step b Bool := onLink Link.connect

def disconnect (openedHere : Bool) : Step b Bool := onLink (Link.disconnect openedHere)

def forceDisconnect : Step b Bool := onLink Link.forceDisconnect

def select (sql : String) : Step b ResultSet := onLink (Link.select sql)

def update (sql : String) : Step b (List Int) := onLink (Link.update sql)

def setParameters (p : Parameters) : Step b Unit := onLink (Link.setParameters p)

def setProperties (files : Files) (path : String) : Step b Unit := do
  setParameters (← conclude (Parameters.ofFile files path))

def setResource (name : String) : Step b Unit := do
  setParameters (← conclude (Parameters.ofResource name))

/-- A new reader looks for the current detector. -/
def setReader (reader : Reader) : Step b Unit :=
  modify fun m =>
    { m with reader := match m.detector with
        | some detector => reader.withPath detector
        | none => reader }

def openText (name : String) : Step b String := do
  conclude ((← get).reader.openText name)

structure Setup where
  tables : Tables
  converters : Converters
  conditionsTable : String

/-- What a configuration means for the known types. Tables are checked first,
then converters, then that conditions records can be had. -/
def setup (types : Types) (config : Config) : Except Error Setup := do
  let tables ← Tables.load types config.tables
  match Converters.load types config.converters (Converters.register {} .detector) with
  | .error e _ => .error e
  | .ok _ converters =>
    return { tables, converters, conditionsTable := ← converters.conditionsTable tables }

/-- Takes a configuration and empties the cache. An earlier configuration stays
in place when the new one is refused. -/
def configure (config : Config) : Step b Unit := do
  let s ← conclude (setup (← get).types config)
  modify fun m =>
    { m with
      tables := s.tables, converters := s.converters
      conditionsTable := some s.conditionsTable, cache := {}, configured := true }

def configureText (text : String) : Step b Unit := do
  configure (← conclude (Config.ofText text))

def configureFile (files : Files) (path : String) : Step b Unit := do
  configure (← conclude (Config.ofFile files path))

def configureResource (name : String) : Step b Unit := do
  configure (← conclude (Config.ofResource name))

/-- Switches to a detector and run. The connection is opened if need be, and
nothing changes if it cannot be. -/
def setDetector (detector : String) (run : Int) : Step b Unit := do
  let m ← get
  unless m.hasParameters do throw (.notFound (.noParametersFor detector run))
  unless m.isConnected do
    let _ ← connect
  modify fun m =>
    { m with
      reader := m.reader.withPath detector, cache := {}
      detector := some detector, run }

def share : Step b Unit :=
  modify fun m => { m with shared := true }

def requireTable (name : String) : Step b Table := do
  match (← get).tables.find? name with
  | some t => return t
  | none => throw (.configuration (.noTableData name))

/-- One past the greatest collection id of a table, or 1 for an empty table. -/
def nextCollectionId (table : String) : Step b Int := do
  let t ← requireTable table
  let sql := (Sql.Statement.nextCollection t.name).text
  match (← select sql).single? with
  | none => return 1
  | some value =>
    match value.integer? with
    | some n => return n
    | none => throw (.query sql (.badCollectionId value))

/-- Whether a table has rows of a collection, by the count that it reports. An
answer that is no number counts as none. -/
def collectionExists (table : String) (collection : Int) : Step b Bool := do
  let t ← requireTable table
  let result ← select (Sql.Statement.countCollection t.name collection).text
  return decide (0 < (result.single?.bind Value.integer?).getD 0)

/-- Inserts a conditions record and gives its id. Cached records are dropped,
so that the next lookup sees the new one. -/
def addRecord (record : Record) : Step b Int := do
  match (← get).conditionsTable with
  | none => throw (.configuration .notConfigured)
  | some name =>
    let t ← requireTable name
    let sql := (Sql.Statement.insertRecord t.name t.key record).text
    match ← update sql with
    | [] => throw (.query sql .noGeneratedKey)
    | id :: _ =>
      modify fun m => { m with cache := m.cache.without .records }
      return id

end Manager
end RunConditions
