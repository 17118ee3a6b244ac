/-!
# White space, trimming, lines and words

Texts are handled as lists of characters, so that every function here is a
fold or a split of its input. White space is the `White_Space` property of
Unicode. A line ends at a newline, and one carriage return directly before
that newline belongs to the line end.
-/

set_option autoImplicit false

namespace RunConditions.Text

/-- First and last character of each range with the `White_Space` property. -/
def blankRanges : List (Nat × Nat) :=
  [(0x9, 0xd), (0x20, 0x20), (0x85, 0x85), (0xa0, 0xa0), (0x1680, 0x1680), (0x2000, 0x200a),
   (0x2028, 0x2029), (0x202f, 0x202f), (0x205f, 0x205f), (0x3000, 0x3000)]

def isBlank (c : Char) : Bool :=
  blankRanges.any fun r => r.1 ≤ c.toNat && c.toNat ≤ r.2

def trimStart (cs : List Char) : List Char :=
  cs.dropWhile isBlank

def trimEnd (cs : List Char) : List Char :=
  (cs.reverse.dropWhile isBlank).reverse

def trim (cs : List Char) : List Char :=
  trimEnd (trimStart cs)

def words (cs : List Char) : List (List Char) :=
  (cs.splitOnP isBlank).filter (!·.isEmpty)

def dropCarriageReturn (line : List Char) : List Char :=
  if line.getLast? = some '\r' then line.dropLast else line

/-- Lines from the pieces between newlines. Every piece but the last was
terminated, and an empty last piece is no line. -/
def linesOfPieces : List (List Char) → List (List Char)
  | [] => []
  | [last] => if last.isEmpty then [] else [last]
  | piece :: next :: rest => dropCarriageReturn piece :: linesOfPieces (next :: rest)

def lines (cs : List Char) : List (List Char) :=
  linesOfPieces (cs.splitOnP (· == '\n'))

end RunConditions.Text
