import RunConditions.Error

/-!
# Files

What a program can learn of a path is whether something is there and, if that
is a file, its text. A file tree gives this for relative paths, which are
followed name by name through directories. An absolute path leads to nothing,
and neither does one that is too long for a file system to look up.
-/

set_option autoImplicit false

namespace RunConditions

inductive FileState where
  | missing
  | directory
  | text (content : String)
  | notUtf8
  deriving DecidableEq, Repr

def FileState.ofBytes (bytes : ByteArray) : FileState :=
  match String.fromUTF8? bytes with
  | some content => .text content
  | none => .notUtf8

abbrev Files : Type := String → FileState

namespace Files

/-- The text of a file. The caller says what a missing file means. -/
def read (files : Files) (path : String) (missing : ResourceFault) : Except Error String :=
  match files path with
  | .missing => .error (.resource missing)
  | .directory => .error (.io .isDirectory)
  | .notUtf8 => .error (.io .notUtf8)
  | .text content => .ok content

def none : Files := fun _ => .missing

end Files

def joinPath (directory name : String) : String :=
  if name.startsWith "/" ∨ directory = "" then name
  else if directory.endsWith "/" then directory ++ name
  else directory ++ "/" ++ name

/-- A place that a relative path leads to: so many levels up, and then down by
these names. -/
structure Place where
  up : Nat := 0
  names : List String := []
  deriving DecidableEq, Repr

namespace Place

def next : Place → String → Place
  | p, "" | p, "." => p
  | ⟨up, []⟩, ".." => ⟨up + 1, []⟩
  | ⟨up, names⟩, ".." => ⟨up, names.dropLast⟩
  | ⟨up, names⟩, name => ⟨up, names ++ [name]⟩

def along (path : String) : List Place :=
  (path.splitOn "/").foldl (fun places name => (places.headD {}).next name :: places) []

end Place

structure FileTree where
  entries : List (Place × FileState) := []

namespace FileTree

def add (t : FileTree) (path : String) (state : FileState) : FileTree :=
  match Place.along path with
  | [] => t
  | last :: before => ⟨(last, state) :: before.map (·, .directory) ++ t.entries⟩

def state (t : FileTree) (p : Place) : FileState :=
  if p.names.isEmpty then .directory else (t.entries.lookup p).getD .missing

/-- What the names of a path lead to. Every name but the last needs a directory. -/
def follow (t : FileTree) : Place → List String → FileState
  | p, [] => t.state p
  | p, name :: rest =>
    match t.state p with
    | .directory => t.follow (p.next name) rest
    | _ => .missing

def longestPath : Nat := 4095

def files (t : FileTree) : Files := fun path =>
  if path = "" ∨ path.startsWith "/" ∨ longestPath < path.utf8ByteSize then .missing
  else t.follow {} (path.splitOn "/")

end FileTree
end RunConditions
