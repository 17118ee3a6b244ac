import RunConditions.Decimal.Shortest

/-!
# Layout of floating point numbers

Two layouts are in use. The plain one writes every number positionally and a
whole number without a point. The exact one marks whole numbers by `.0` and
writes very large and very small numbers with an exponent. Both write the
shortest digits that read back, and the sign of zero.
-/

set_option autoImplicit false

namespace RunConditions

structure Layout where
  pointZero : Bool
  /-- Exponents of the leading digit that are written positionally, from the
  first to before the second; without bounds every number is. -/
  positional : Option (Int × Int)

def Layout.plain : Layout := ⟨false, none⟩

def Layout.exact : Layout := ⟨true, some (-4, 16)⟩

namespace Decimal

def positional (pointZero : Bool) (digits : List Char) (point : Int) : List Char :=
  if point ≤ 0 then ['0', '.'] ++ List.replicate (-point).toNat '0' ++ digits
  else if point.toNat < digits.length then
    digits.take point.toNat ++ ['.'] ++ digits.drop point.toNat
  else
    digits ++ List.replicate (point.toNat - digits.length) '0' ++
      (if pointZero then ['.', '0'] else [])

def scientific (digits : List Char) (leading : Int) : List Char :=
  digits.take 1 ++ (if digits.length = 1 then [] else '.' :: digits.drop 1) ++
    ['e'] ++ (toString leading).toList

def layOut (layout : Layout) (d : Decimal) : List Char :=
  if d.digits = 0 then if layout.pointZero then ['0', '.', '0'] else ['0']
  else
    let digits := Nat.toDigits 10 d.digits
    let leading := d.exponent + digits.length - 1
    match layout.positional with
    | some (first, bound) =>
      if first ≤ leading ∧ leading < bound then positional layout.pointZero digits (leading + 1)
      else scientific digits leading
    | none => positional layout.pointZero digits (leading + 1)

end Decimal

def Layout.write (layout : Layout) (x : Float) : String :=
  let bits := x.toBits
  let negative := 0x8000000000000000 ≤ bits.toNat
  let field : Nat := bits.toNat >>> 52 % 0x800
  if field = 2047 ∧ bits.toNat % 0x10000000000000 ≠ 0 then "NaN"
  else
    let body :=
      if field = 2047 then ['i', 'n', 'f']
      else (Decimal.Binary.ofBits bits).shortest.layOut layout
    String.ofList (if negative then '-' :: body else body)

end RunConditions
