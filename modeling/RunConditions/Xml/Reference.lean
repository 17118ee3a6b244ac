import RunConditions.Text.Break
import RunConditions.Xml.Fault

/-!
# References in attribute values

A reference stands between `&` and `;`. It names one of the five predefined
characters or gives a character by its number, in decimal or behind `x` in
hexadecimal. All other characters stand for themselves.
-/

set_option autoImplicit false

namespace RunConditions.Xml
open Text

def byteLength (cs : List Char) : Nat :=
  cs.foldr (fun c n => c.utf8Size + n) 0

def predefined : List (List Char × Char) :=
  [(['l', 't'], '<'), (['g', 't'], '>'), (['a', 'm', 'p'], '&'),
   (['a', 'p', 'o', 's'], '\''), (['q', 'u', 'o', 't'], '"')]

def characterOf (code : Nat) : Except ReferenceFault Char :=
  if code = 0 then .error .zeroCharacter
  else if h : code.isValidChar then .ok (Char.ofNatAux code h)
  else .error (.noCharacter code)

def readCode (base : Nat) : List Char → Except ReferenceFault Nat
  | '+' :: _ | '-' :: _ => .error .signedNumber
  | cs => (Numeral.readNat base 0xFFFFFFFF cs).mapError .badNumber

/-- The character that a reference stands for, from the text between its
delimiters and the place of that text in the value. -/
def resolve (place : Nat) : List Char → Except ReferenceFault Char
  | '#' :: 'x' :: cs => readCode 16 cs >>= characterOf
  | '#' :: cs => readCode 10 cs >>= characterOf
  | name =>
    match predefined.lookup name with
    | some c => .ok c
    | none =>
      .error (.unknownEntity place (place + byteLength name) (String.ofList name))

/-- The characters that are looked for behind `&`. -/
def endsReference (c : Char) : Bool :=
  c == ';' || c == '&'

def unescapeFrom (total : Nat) : List Char → Except ReferenceFault (List Char)
  | [] => .ok []
  | '&' :: cs =>
    match _ : cs.dropWhile (!endsReference ·) with
    | ';' :: rest => do
      let c ← resolve (total - byteLength cs) (cs.takeWhile (!endsReference ·))
      return c :: (← unescapeFrom total rest)
    | _ => .error (.unterminated (total - byteLength ('&' :: cs)) total)
  | c :: cs => (unescapeFrom total cs).map (c :: ·)
termination_by cs => cs.length
decreasing_by
  · have := length_dropWhile_le (!endsReference ·) cs
    simp_all; omega
  · simp

def unescape (value : List Char) : Except ReferenceFault (List Char) :=
  unescapeFrom (byteLength value) value

end RunConditions.Xml
