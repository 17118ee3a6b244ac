/-!
# The shortest decimal of a floating point number

A finite number has an exact value `m * 2 ^ q`, and reading a decimal gives
that number back when the decimal lies between the midpoints to the two
neighbouring numbers (the midpoints included when `m` is even). The search
tries the grids of one, two, up to seventeen significant digits. On each grid
it looks at the two points around the value, and the first grid with a point
that reads back wins. Of two such points the nearer is taken, and the larger
one on a tie.
-/

set_option autoImplicit false

namespace RunConditions

/-- The number `digits * 10 ^ exponent`. -/
structure Decimal where
  digits : Nat
  exponent : Int
  deriving DecidableEq, Repr

namespace Decimal

/-- A positive binary number `mantissa * 2 ^ exponent`. The gap to the
neighbour below is half as wide where a power of two is crossed. -/
structure Binary where
  mantissa : Nat
  exponent : Int
  narrowBelow : Bool
  deriving DecidableEq, Repr

def Binary.ofBits (bits : UInt64) : Binary :=
  let field : Nat := bits.toNat >>> 52 % 0x800
  let fraction : Nat := bits.toNat % 0x10000000000000
  if field = 0 then ⟨fraction, -1074, false⟩
  else ⟨0x10000000000000 + fraction, (field : Int) - 1075, fraction = 0 && 1 < field⟩

def Binary.leading (b : Binary) : Int :=
  let scaled :=
    if 0 ≤ b.exponent then b.mantissa <<< b.exponent.toNat * Nat.pow 10 400
    else (b.mantissa * Nat.pow 10 400) >>> (-b.exponent).toNat
  ((Nat.toDigits 10 scaled).length : Int) - 401

/-- A quarter of the gap between neighbours, as a multiple of `10 ^ k`: the
numerator and the denominator of `2 ^ (exponent - 2) / 10 ^ k`. -/
def Binary.quarter (b : Binary) (k : Int) : Nat × Nat :=
  let q := b.exponent - 2
  (Nat.pow 2 q.toNat * Nat.pow 10 (-k).toNat, Nat.pow 2 (-q).toNat * Nat.pow 10 k.toNat)

def Binary.readsBack (b : Binary) (k : Int) (n : Nat) : Bool :=
  let (unit, scale) := b.quarter k
  let low := (4 * b.mantissa - if b.narrowBelow then 1 else 2) * unit
  let high := (4 * b.mantissa + 2) * unit
  if b.mantissa % 2 = 0 then low ≤ n * scale && n * scale ≤ high
  else low < n * scale && n * scale < high

/-- The point of the grid `10 ^ k` that stands for the number, if one of the
two around it reads back. -/
def Binary.onGrid? (b : Binary) (k : Int) : Option Nat :=
  let (unit, scale) := b.quarter k
  let value := 4 * b.mantissa * unit
  let below := value / scale
  match b.readsBack k below, b.readsBack k (below + 1) with
  | true, true => some (if 2 * (value % scale) < scale then below else below + 1)
  | true, false => some below
  | false, true => some (below + 1)
  | false, false => none

def dropZeros : Nat → Nat → Int → Decimal
  | 0, digits, exponent => ⟨digits, exponent⟩
  | fuel + 1, digits, exponent =>
    if digits % 10 = 0 ∧ digits ≠ 0 then dropZeros fuel (digits / 10) (exponent + 1)
    else ⟨digits, exponent⟩

def Binary.shortest (b : Binary) : Decimal :=
  if b.mantissa = 0 then ⟨0, 0⟩
  else
    let grids := (List.range 17).map fun (n : Nat) => b.leading - n
    let found := grids.findSome? fun k => (b.onGrid? k).map fun n => (n, k)
    let (digits, exponent) := found.getD (b.mantissa, b.exponent)
    dropZeros 17 digits exponent

end Decimal
end RunConditions
