import RunConditions.Collection
import RunConditions.Fields

/-!
# Conditions records

A record gives a name to the rows of one table under one collection id, for a
range of runs with both ends inside. Where several records hold for a run the
latest counts, which is the one with the greatest row id.
-/

set_option autoImplicit false

namespace RunConditions

structure Record where
  id : Int
  runStart : Int
  runEnd : Int
  name : String
  table : String
  collection : Int
  tag : Option String := none
  createdBy : Option String := none
  notes : Option String := none
  deriving DecidableEq, Repr

namespace Record

/-- Columns of a record besides the key, in the order in which it is written. -/
def columns : List String :=
  ["run_start", "run_end", "name", "table_name", "collection_id", "tag", "created_by", "notes"]

def validFor (r : Record) (run : Int) : Bool :=
  r.runStart ≤ run && run ≤ r.runEnd

def read (f : Fields) : Except Error Record := do
  return {
    id := ← f.rowId
    runStart := ← f.integer32 "run_start"
    runEnd := ← f.integer32 "run_end"
    name := ← f.text "name"
    table := ← f.text "table_name"
    collection := ← f.integer "collection_id"
    tag := ← f.optionalText "tag"
    createdBy := ← f.optionalText "created_by"
    notes := ← f.optionalText "notes" }

def display (r : Record) : String :=
  "id: " ++ toString r.id ++ "\nname: " ++ r.name ++ "\nrunStart: " ++ toString r.runStart ++
    "\nrunEnd: " ++ toString r.runEnd ++ "\ntableName: " ++ r.table ++
    "\ncollectionId: " ++ toString r.collection ++ "\ntag: " ++ r.tag.getD "" ++
    "\ncreatedBy: " ++ r.createdBy.getD "" ++ "\nnotes: " ++ r.notes.getD ""

/-- The last of the records with the greatest id. -/
def latest? : List Record → Option Record
  | [] => none
  | r :: rest =>
    match latest? rest with
    | none => some r
    | some best => some (if best.id < r.id then r else best)

end Record

namespace Collection

def named (c : Collection Record) (name : String) : Collection Record :=
  c.filter (·.name == name)

def validFor (c : Collection Record) (run : Int) : Collection Record :=
  c.filter (·.validFor run)

def latest? (c : Collection Record) : Option Record :=
  Record.latest? c.rows

def display (c : Collection Record) : String :=
  "\n\n".intercalate (c.rows.map Record.display)

end Collection
end RunConditions
