import RunConditions.CommandLine.Invocation
import RunConditions.DataFile
import RunConditions.Manager.Lookup

/-!
# The commands

Each command opens the connection if it is not open and closes it again if it
was the one that opened it. The error of the command itself is reported before
an error of closing.
-/

set_option autoImplicit false

namespace RunConditions.CommandLine
open Manager

variable {b : Backend} {α : Type}

structure Surroundings where
  files : Files
  user : String

def userName (user username : Option String) : String :=
  (user <|> username).getD "unknown"

def closeAfter (openedHere : Bool) (body : Step b α) : Step b α := do
  let outcome ← attempt body
  let closed ← attempt (disconnect openedHere)
  match outcome, closed with
  | .ok a, .ok _ => return a
  | .ok _, .error e => throw e
  | .error e, _ => throw e

def connected (body : Step b α) : Step b α := do
  let openedHere ← connect
  closeAfter openedHere body

def configuredTable (name : String) : Step b Table := do
  match (← get).tables.find? name with
  | some t => return t
  | none => throw (.configuration (.unknownTable name))

structure LoadOutcome where
  collection : Int
  rowIds : List Int
  deriving DecidableEq, Repr

/-- The collection id for new rows: the given one, which must not be in use,
or the next one of the table. -/
def freeCollection (t : Table) : Option Int → Step b Int
  | none => nextCollectionId t.name
  | some id => do
    if ← collectionExists t.name id then
      throw (.configuration (.usedCollection id t.name))
    return id

def insertCollection (t : Table) (collection : Option Int) (data : DataFile) :
    Step b LoadOutcome := do
  let id ← freeCollection t collection
  let statement ← conclude (Sql.Statement.insert t.name t.key id data.columns data.rows)
  return { collection := id, rowIds := ← update statement.text }

def load (s : Surroundings) (a : LoadArguments) : Step b LoadOutcome := do
  let t ← configuredTable a.table
  let data ← conclude (DataFile.read s.files a.file)
  connected (insertCollection t a.collection data)

def add (s : Surroundings) (a : AddArguments) : Step b Int := do
  let _ ← configuredTable a.table
  if a.runEnd < a.runStart then
    throw (.configuration (.emptyRunRange a.runStart a.runEnd))
  connected (addRecord {
    id := 0, runStart := a.runStart, runEnd := a.runEnd, name := a.name, table := a.table
    collection := a.collection, tag := a.tag, createdBy := some (a.user.getD s.user)
    notes := a.notes })

def print (a : PrintArguments) : Step b (Collection Record) := do
  let found ← connected (findRecords a.name)
  return match a.run with
    | some run => found.validFor run
    | none => found

end RunConditions.CommandLine
