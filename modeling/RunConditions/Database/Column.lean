import RunConditions.Error

/-!
# Typed columns of a server

A server names the type of each column, and the type decides what a cell that
is not null holds. Null of any type is no value. A cell of a type without
values here is an error as soon as it is not null.
-/

set_option autoImplicit false

namespace RunConditions.Server

inductive Content where
  | integer
  | single
  | double
  | boolean
  | text
  | microseconds
  | days
  | unsupported
  deriving DecidableEq, Repr

def contentOf : String → Content
  | "INT2" | "INT4" | "INT8" => .integer
  | "FLOAT4" => .single
  | "FLOAT8" => .double
  | "BOOL" => .boolean
  | "TEXT" | "VARCHAR" | "BPCHAR" | "NAME" | "CHAR" => .text
  | "TIMESTAMP" | "TIMESTAMPTZ" => .microseconds
  | "DATE" => .days
  | _ => .unsupported

namespace Content

/-- What a server sends. Times count microseconds and dates count days from the
year 2000. Nothing is known of unsupported cells. -/
abbrev Raw : Content → Type
  | integer => Int
  | single => Float32
  | double => Float
  | boolean => Bool
  | text => String
  | microseconds => Int
  | days => Int
  | unsupported => Unit

def value? : (c : Content) → c.Raw → Option Value
  | integer, n => some (.integer n)
  | single, x => some (.float (Float32.toFloat x))
  | double, x => some (.float x)
  | boolean, b => some (.boolean b)
  | text, s => some (.text s)
  | microseconds, n => some (.timestamp (.ofMicroseconds n))
  | days, n => some (.timestamp (.ofDays n))
  | unsupported, _ => none

end Content

structure Cell where
  column : String
  type : String
  raw : Option (contentOf type).Raw

abbrev Row : Type := List Cell

namespace Cell

def decode (c : Cell) : Except DatabaseFault (Option Value) :=
  match c.raw with
  | none => .ok none
  | some raw =>
    match (contentOf c.type).value? raw with
    | some value => .ok (some value)
    | none => .error (.unsupportedColumn c.type c.column)

end Cell

def decodeRow (row : Row) : Except DatabaseFault (List (Option Value)) :=
  row.mapM Cell.decode

def decodeRows (rows : List Row) : Except DatabaseFault ResultSet := do
  return {
    columns := (rows.head?.getD []).map Cell.column
    rows := ← rows.mapM decodeRow }

def decodeKey (row : Row) : Except DatabaseFault Int := do
  match (← decodeRow row).head? with
  | some (some (.integer key)) => .ok key
  | other => .error (.badGeneratedKey other)

def decodeKeys (rows : List Row) : Except DatabaseFault (List Int) :=
  rows.mapM decodeKey

end RunConditions.Server
