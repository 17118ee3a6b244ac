import RunConditions.CommandLine.Grammar

/-!
# Invocations of the tool

The tool has options of its own and three commands. `load` inserts the rows of
a data file, `add` adds a conditions record, and `print` shows records.
-/

set_option autoImplicit false

namespace RunConditions.CommandLine

structure GlobalOptions where
  properties : Option String := none
  config : Option String := none
  log : Option String := none
  deriving DecidableEq, Repr

structure LoadArguments where
  table : String
  file : String
  collection : Option Int := none
  deriving DecidableEq, Repr

structure AddArguments where
  name : String
  table : String
  collection : Int
  runStart : Int
  runEnd : Int
  user : Option String := none
  notes : Option String := none
  tag : Option String := none
  deriving DecidableEq, Repr

structure PrintArguments where
  name : String
  run : Option Int := none
  deriving DecidableEq, Repr

inductive Command where
  | load (a : LoadArguments)
  | add (a : AddArguments)
  | print (a : PrintArguments)
  deriving DecidableEq, Repr

structure Invocation where
  options : GlobalOptions
  command : Option Command
  deriving DecidableEq, Repr

def Invocation.paths (i : Invocation) : List String :=
  i.options.properties.toList ++ i.options.config.toList ++
    match i.command with
    | some (.load a) => [a.file]
    | _ => []

def topLevel : Level where
  flags :=
    [{ name := "properties", letter := 'p', long := some "properties", accepts := .path },
     { name := "config", letter := 'x', long := some "config", accepts := .path },
     { name := "log", letter := 'l', long := some "log" }]
  commands := ["load", "add", "print", "help"]

def loadFlags : List Flag :=
  [{ name := "table", letter := 't' }, { name := "file", letter := 'f', accepts := .path },
   { name := "collection", letter := 'c', accepts := .integer64 }]

def addFlags : List Flag :=
  [{ name := "name", letter := 'n' }, { name := "table", letter := 't' },
   { name := "collection", letter := 'c', accepts := .integer64 },
   { name := "runStart", letter := 's', accepts := .integer32 },
   { name := "runEnd", letter := 'e', accepts := .integer32 },
   { name := "user", letter := 'u' }, { name := "notes", letter := 'm' },
   { name := "tag", letter := 'T' }]

def printFlags : List Flag :=
  [{ name := "name", letter := 'n' }, { name := "run", letter := 'r', accepts := .integer32 }]

def readFlags (flags : List Flag) (words : List String) : Except UsageFault Reading := do
  let (r, _) ← Reading.words { flags } words {}
  r.settle

def readLoad (words : List String) : Except UsageFault Command := do
  let r ← readFlags loadFlags words
  return .load {
    table := ← Reading.required (r.text? "table")
    file := ← Reading.required (r.text? "file")
    collection := r.number? "collection" }

def readAdd (words : List String) : Except UsageFault Command := do
  let r ← readFlags addFlags words
  return .add {
    name := ← Reading.required (r.text? "name")
    table := ← Reading.required (r.text? "table")
    collection := ← Reading.required (r.number? "collection")
    runStart := ← Reading.required (r.number? "runStart")
    runEnd := ← Reading.required (r.number? "runEnd")
    user := r.text? "user"
    notes := r.text? "notes"
    tag := r.text? "tag" }

def readPrint (words : List String) : Except UsageFault Command := do
  let r ← readFlags printFlags words
  return .print { name := ← Reading.required (r.text? "name"), run := r.number? "run" }

def readHelp : List String → UsageFault
  | [] => .displayHelp
  | [word] => if topLevel.commands.contains word then .displayHelp else .invalidSubcommand
  | _ => .invalidSubcommand

def readCommand : String → List String → Except UsageFault Command
  | "load", words => readLoad words
  | "add", words => readAdd words
  | "print", words => readPrint words
  | _, words => .error (readHelp words)

/-- A whole command line without the name of the program. Options in front are
settled behind the command. -/
def Invocation.read (words : List String) : Except UsageFault Invocation := do
  let (r, found) ← Reading.words topLevel words {}
  let command ← match found with
    | some (word, rest) => (readCommand word rest).map some
    | none => pure none
  let r ← r.settle
  if command.isNone && r.given.isEmpty then throw .helpOnMissing
  return {
    options := {
      properties := r.text? "properties", config := r.text? "config", log := r.text? "log" }
    command }

end RunConditions.CommandLine
