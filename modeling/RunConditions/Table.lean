import RunConditions.Payload

/-!
# Configured tables

A table has a name, a key column and a collection type, and lists the columns
that the configuration expects in it. The rows of a result set are read one by one
in order, and only if all expected columns are there.
-/

set_option autoImplicit false

namespace RunConditions

/-- One configured table. The names of its object and collection types are those of the
configuration, and the rows of the collection type are the objects. -/
structure Table where
  name : String
  key : String
  collection : CollectionType
  objectName : String
  collectionName : String
  fields : List String
  deriving DecidableEq, Repr

namespace Table

def row (t : Table) : RowType :=
  t.collection.row

def hasField (t : Table) (name : String) : Bool :=
  t.fields.contains name

def missingField? (t : Table) (result : ResultSet) : Option String :=
  t.fields.find? fun field => (result.column? field).isNone

def fieldsOf (t : Table) (result : ResultSet) (row : Nat) : Fields :=
  { table := t.name, key := t.key, result, row }

/-- The rows of a result set. Without rows the columns are not looked at. -/
def read (t : Table) (r : RowType) (result : ResultSet) : Except Error (Collection r.Row) :=
  if result.rows.isEmpty then .ok {}
  else
    match t.missingField? result with
    | some field => .error (.configuration (.fieldNotColumn field t.name))
    | none => do
      let rows ← (List.range result.rows.length).mapM fun row => r.read (t.fieldsOf result row)
      return { rows }

end Table

structure Tables where
  list : List Table := []
  deriving DecidableEq, Repr

namespace Tables

def find? (ts : Tables) (name : String) : Option Table :=
  ts.list.find? (·.name == name)

theorem name_of_find? {ts : Tables} {name : String} {t : Table} (h : ts.find? name = some t) :
    t.name = name := by
  simpa using List.find?_some h

def ofCollection? (ts : Tables) (c : CollectionType) : Option Table :=
  ts.list.find? (·.collection == c)

def ofKind? (ts : Tables) : Kind → Option Table
  | .collection c => ts.ofCollection? c
  | .detector | .text => none

end Tables
end RunConditions
