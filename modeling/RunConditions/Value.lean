import RunConditions.Decimal.Layout
import RunConditions.Text.Letters
import RunConditions.Text.Quoted
import RunConditions.Timestamp

/-!
# Column values and result sets

A cell of a result set holds a value or nothing. Columns are found by name
without regard to letter case, and the first of several columns with one name
counts.
-/

set_option autoImplicit false

namespace RunConditions

inductive Value where
  | integer (n : Int)
  | float (x : Float)
  | text (s : String)
  | boolean (b : Bool)
  | timestamp (t : Timestamp)
  deriving DecidableEq

namespace Value

def integer? : Value → Option Int
  | integer n => some n
  | _ => none

/-- Integers widen, so that an integer column can feed a float field. -/
def float? : Value → Option Float
  | float x => some x
  | integer n => some (Float.ofInt n)
  | _ => none

def text? : Value → Option String
  | text s => some s
  | _ => none

def display : Value → String
  | integer n => toString n
  | float x => Layout.plain.write x
  | text s => s
  | boolean b => if b then "true" else "false"
  | timestamp t => t.display

def describe : Value → String
  | integer n => "Bigint(" ++ toString n ++ ")"
  | float x => "Float(" ++ Layout.exact.write x ++ ")"
  | text s => "String(" ++ Text.quoted s ++ ")"
  | boolean b => "Boolean(" ++ (if b then "true" else "false") ++ ")"
  | timestamp t => "Timestamp(" ++ t.exact ++ ")"

end Value

/-- The rows that a query selected, under the names of their columns. The
columns may be unknown when there are no rows. -/
structure ResultSet where
  columns : List String := []
  rows : List (List (Option Value)) := []
  deriving DecidableEq

namespace ResultSet

def column? (r : ResultSet) (name : String) : Option Nat :=
  r.columns.findIdx? (Text.sameLetters · name)

def cell (r : ResultSet) (row column : Nat) : Option Value :=
  (r.rows[row]?.bind fun cells => cells[column]?).join

def value? (r : ResultSet) (row : Nat) (name : String) : Option Value :=
  (r.column? name).bind (r.cell row)

def single? (r : ResultSet) : Option Value :=
  r.cell 0 0

end ResultSet
end RunConditions
