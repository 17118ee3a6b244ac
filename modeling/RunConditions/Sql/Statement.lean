import RunConditions.Record

/-!
# Statements

The database is asked and changed by six statements. Names of tables and
columns are written as they are, numbers in decimal, and every other text as a
literal between single quotes, in which a quote is written twice.
-/

set_option autoImplicit false

namespace RunConditions.Sql

def escapeChars (cs : List Char) : List Char :=
  cs.flatMap fun c => if c = '\'' then ['\'', '\''] else [c]

def escape (s : String) : String :=
  String.ofList (escapeChars s.toList)

def literal (s : String) : String :=
  "'" ++ escape s ++ "'"

def optionalLiteral : Option String → String
  | some s => literal s
  | none => "NULL"

def collectionColumn : String := "collection_id"

inductive Statement where
  | selectAll (table order : String)
  | selectCollection (table : String) (collection : Int)
  | nextCollection (table : String)
  | countCollection (table : String) (collection : Int)
  | insertRows (table key : String) (collection : Int) (columns : List String)
      (rows : List (List String))
  /-- A new conditions record, whose own id is not written. -/
  | insertRecord (table key : String) (record : Record)
  deriving DecidableEq

namespace Statement

def tuple (collection : Int) (row : List String) : String :=
  "(" ++ toString collection ++ ", " ++ ", ".intercalate (row.map literal) ++ ")"

def recordValues (r : Record) : List String :=
  [toString r.runStart, toString r.runEnd, literal r.name, literal r.table,
   toString r.collection, optionalLiteral r.tag, optionalLiteral r.createdBy,
   optionalLiteral r.notes]

def text : Statement → String
  | selectAll table order => "SELECT * FROM " ++ table ++ " ORDER BY " ++ order
  | selectCollection table collection =>
    "SELECT * FROM " ++ table ++ " WHERE " ++ collectionColumn ++ " = " ++ toString collection
  | nextCollection table => "SELECT MAX(" ++ collectionColumn ++ ")+1 FROM " ++ table
  | countCollection table collection =>
    "SELECT COUNT(*) FROM " ++ table ++ " WHERE " ++ collectionColumn ++ " = " ++
      toString collection
  | insertRows table key collection columns rows =>
    "INSERT INTO " ++ table ++ " (" ++ collectionColumn ++ ", " ++ ", ".intercalate columns ++
      ") VALUES " ++ ", ".intercalate (rows.map (tuple collection)) ++ " RETURNING " ++ key
  | insertRecord table key record =>
    "INSERT INTO " ++ table ++ " (" ++ ", ".intercalate Record.columns ++ ") VALUES (" ++
      ", ".intercalate (recordValues record) ++ ") RETURNING " ++ key

/-- The first row, counted from `n`, without a value for each column. -/
def raggedRow? (columns : Nat) : Nat → List (List String) → Option (Nat × Nat)
  | _, [] => none
  | n, row :: rest =>
    if row.length = columns then raggedRow? columns (n + 1) rest else some (n, row.length)

def insert (table key : String) (collection : Int) (columns : List String)
    (rows : List (List String)) : Except Error Statement :=
  if columns.isEmpty then .error (.configuration (.noColumns table))
  else if rows.isEmpty then .error (.configuration (.noRows table))
  else
    match raggedRow? columns.length 1 rows with
    | some (row, values) => .error (.configuration (.raggedRow row values columns.length))
    | none => .ok (.insertRows table key collection columns rows)

end Statement
end RunConditions.Sql
