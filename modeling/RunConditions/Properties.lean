import RunConditions.Text.Blank

/-!
# Property texts

One property stands on a line, its key and value parted by the first `=` or
`:`. Lines that start with `#` or `!` are comments. White space around lines,
keys and values does not count, a line without a key is skipped, and a later
value of a key replaces an earlier one.
-/

set_option autoImplicit false

namespace RunConditions

structure Properties where
  /-- Pairs of key and value with distinct keys. -/
  entries : List (String × String) := []
  deriving DecidableEq, Repr

namespace Properties

def get? (p : Properties) (key : String) : Option String :=
  p.entries.lookup key

def set (p : Properties) (key value : String) : Properties :=
  ⟨(key, value) :: p.entries.filter (·.1 != key)⟩

def isSeparator (c : Char) : Bool :=
  c == '=' || c == ':'

def entry? (line : List Char) : Option (String × String) :=
  match Text.trim line with
  | [] | '#' :: _ | '!' :: _ => none
  | line =>
    let key := Text.trim (line.takeWhile (!isSeparator ·))
    let value := Text.trim ((line.dropWhile (!isSeparator ·)).drop 1)
    if key.isEmpty then none else some (String.ofList key, String.ofList value)

def addLine (p : Properties) (line : List Char) : Properties :=
  match entry? line with
  | none => p
  | some (key, value) => p.set key value

def ofText (text : String) : Properties :=
  (Text.lines text.toList).foldl addLine {}

end Properties
end RunConditions
