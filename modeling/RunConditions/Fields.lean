import RunConditions.Error

/-!
# Reading one row by column name

A row is seen through the names of its columns. A missing column, an absent
value where one is required and a value of another type are faults of the
configuration, since they mean that it and the database disagree.
-/

set_option autoImplicit false

namespace RunConditions

structure Fields where
  table : String
  key : String
  result : ResultSet
  row : Nat

namespace Fields

/-- The value under a name. A column that is not there is an error, an absent
value is not. -/
def get (f : Fields) (field : String) : Except Error (Option Value) :=
  match f.result.column? field with
  | none => .error (.configuration (.noField field f.table))
  | some column => .ok (f.result.cell f.row column)

def required (f : Fields) (field : String) : Except Error Value := do
  match ← f.get field with
  | none => .error (.configuration (.nullField field f.table))
  | some value => .ok value

def typed {α : Type} (f : Fields) (field expected : String) (read : Value → Option α) :
    Except Error α := do
  let value ← f.required field
  match read value with
  | none => .error (.configuration (.wrongType field f.table expected value))
  | some a => .ok a

def integer (f : Fields) (field : String) : Except Error Int :=
  f.typed field "an integer" Value.integer?

def integer32 (f : Fields) (field : String) : Except Error Int := do
  let n ← f.integer field
  if -0x80000000 ≤ n ∧ n < 0x80000000 then .ok n
  else .error (.configuration (.outOfRange field f.table n))

def float (f : Fields) (field : String) : Except Error Float :=
  f.typed field "a number" Value.float?

def text (f : Fields) (field : String) : Except Error String :=
  f.typed field "text" Value.text?

def optionalText (f : Fields) (field : String) : Except Error (Option String) := do
  return (← f.get field).map Value.display

def rowId (f : Fields) : Except Error Int :=
  f.integer f.key

end Fields
end RunConditions
