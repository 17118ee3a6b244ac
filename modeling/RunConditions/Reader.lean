import RunConditions.Embedded
import RunConditions.Files

/-!
# Readers for conditions outside the database

A reader opens a named text for a resource path, which is the name of the
current detector. The base reader looks below its search roots in turn and
then among the embedded detector descriptions.
-/

set_option autoImplicit false

namespace RunConditions

structure Reader where
  find : Option String → String → Except Error String
  path : Option String := none

namespace Reader

def openText (r : Reader) (name : String) : Except Error String :=
  r.find r.path name

def withPath (r : Reader) (path : String) : Reader :=
  { r with path := some path }

def firstFile (files : Files) : List String → Option (Except Error String)
  | [] => none
  | candidate :: rest =>
    match files candidate with
    | .text content => some (.ok content)
    | .notUtf8 => some (.error (.io .notUtf8))
    | .missing | .directory => firstFile files rest

/-- Search roots first, embedded descriptions last. -/
def findBelow (files : Files) (roots : List String) :
    Option String → String → Except Error String
  | none, name => .error (.resource (.noResourcePath name))
  | some path, name =>
    match firstFile files (roots.map fun root => joinPath (joinPath root path) name) with
    | some found => found
    | none =>
      match Embedded.find? ("/detectors/" ++ path ++ "/" ++ name) with
      | some content => .ok content
      | none => .error (.resource (.notFoundFor name path))

def base (files : Files) (roots : List String) : Reader :=
  { find := findBelow files roots }

end Reader
end RunConditions
