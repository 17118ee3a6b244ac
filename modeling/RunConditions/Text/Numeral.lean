/-!
# Integers in texts

The grammar is a run of digits of the base, with at most one sign in front.
Reading goes from left to right and stops at the first fault: a character that
is no digit, or a digit with which the number leaves its range.
-/

set_option autoImplicit false

namespace RunConditions.Numeral

inductive Fault where
  | empty
  | invalidDigit
  | tooLarge
  deriving DecidableEq, Repr

def Fault.message : Fault → String
  | .empty => "cannot parse integer from empty string"
  | .invalidDigit => "invalid digit found in string"
  | .tooLarge => "number too large to fit in target type"

/-- The value of a digit, letters of either case counting from ten. -/
def digitValue? (base : Nat) (c : Char) : Option Nat :=
  let value :=
    if c.isDigit then some (c.toNat - '0'.toNat)
    else if 'a' ≤ c ∧ c ≤ 'z' then some (c.toNat - 'a'.toNat + 10)
    else if 'A' ≤ c ∧ c ≤ 'Z' then some (c.toNat - 'A'.toNat + 10)
    else none
  value.filter (· < base)

def readDigits (base limit : Nat) : Nat → List Char → Except Fault Nat
  | value, [] => .ok value
  | value, c :: rest =>
    match digitValue? base c with
    | none => .error .invalidDigit
    | some digit =>
      if base * value + digit ≤ limit then readDigits base limit (base * value + digit) rest
      else .error .tooLarge

/-- A number without a minus sign. A sign that stands alone is no digit. -/
def readNat (base limit : Nat) : List Char → Except Fault Nat
  | [] => .error .empty
  | '+' :: c :: rest => readDigits base limit 0 (c :: rest)
  | cs => readDigits base limit 0 cs

def readInt? (below above : Nat) : List Char → Option Int
  | '-' :: c :: rest => (readDigits 10 below 0 (c :: rest)).toOption.map fun n => -(n : Int)
  | cs => (readNat 10 above cs).toOption.map Int.ofNat

def readInt64? (cs : List Char) : Option Int :=
  readInt? 0x8000000000000000 0x7FFFFFFFFFFFFFFF cs

def readInt32? (cs : List Char) : Option Int :=
  readInt? 0x80000000 0x7FFFFFFF cs

end RunConditions.Numeral
