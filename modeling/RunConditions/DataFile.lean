import RunConditions.Files
import RunConditions.Text.Blank

/-!
# Data files

A data file is a text of words between white space. Its first line names the
columns, and every later line that is not blank is a row.
-/

set_option autoImplicit false

namespace RunConditions

structure DataFile where
  columns : List String
  rows : List (List String)
  deriving DecidableEq, Repr

namespace DataFile

def wordsOf (line : List Char) : List String :=
  (Text.words line).map String.ofList

def isBlankLine (line : List Char) : Bool :=
  (Text.trim line).isEmpty

/-- The columns and rows of a text, if its first line names a column. -/
def ofText? (text : String) : Option DataFile :=
  match Text.lines text.toList with
  | [] => none
  | header :: rest =>
    if (wordsOf header).isEmpty then none
    else some ⟨wordsOf header, (rest.filter (!isBlankLine ·)).map wordsOf⟩

def read (files : Files) (path : String) : Except Error DataFile := do
  match ofText? (← files.read path (.noInputFile path)) with
  | some data => .ok data
  | none => .error (.resource (.emptyInputFile path))

end DataFile
end RunConditions
