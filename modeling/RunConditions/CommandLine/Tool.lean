import RunConditions.CommandLine.Commands
import RunConditions.LogLevel

/-!
# The tool as a whole

The tool reads its command line, sets a manager up from the files or embedded
texts that the options name, and runs one command. It prints what the command
has done, or an error with everything that lies behind it.
-/

set_option autoImplicit false

namespace RunConditions.CommandLine
open Manager

variable {b : Backend}

def setUp (files : Files) (o : GlobalOptions) : Step b Unit := do
  match o.config with
  | some path => configureFile files path
  | none => configureResource Embedded.configurationName
  match o.properties with
  | some path => setProperties files path
  | none => setResource Embedded.propertiesName

def freshManager (world : b.World) : Manager b :=
  .new .standard (.base Files.none []) world

def runCommand (s : Surroundings) : Command → Step b String
  | .load a => do
    let outcome ← load s a
    return "Inserted " ++ toString outcome.rowIds.length ++ " rows with collection_id " ++
      toString outcome.collection
  | .add a => do
    return "Added conditions record " ++ toString (← add s a)
  | .print a => do
    let records ← print a
    return if records.isEmpty then "No conditions records found." else records.display

structure Failure where
  message : String
  causes : List String := []
  deriving DecidableEq, Repr

def Failure.ofError (e : Error) : Failure :=
  { message := e.message, causes := e.causes }

namespace Failure

/-- A cause on lines of its own, its later lines as far in as the first. -/
def indented (first later text : String) : String :=
  first ++ ("\n" ++ later).intercalate (text.splitOn "\n")

def causeLines : List String → List String
  | [] => []
  | [cause] => [indented "    " "    " cause]
  | causes => causes.zipIdx.map fun (cause, n) =>
      indented (String.ofList (List.replicate (5 - (toString n).length) ' ') ++ toString n ++ ": ")
        "       " cause

def report (f : Failure) : String :=
  "Error: " ++ f.message ++
    (if f.causes.isEmpty then ""
     else "\n\nCaused by:\n" ++ "\n".intercalate (causeLines f.causes))

end Failure

inductive Outcome where
  | usage (fault : UsageFault)
  | printed (text : String)
  | failed (failure : Failure)
  deriving DecidableEq, Repr

namespace Outcome

def exitCode : Outcome → Nat
  | usage fault => fault.exitCode
  | printed _ => 0
  | failed _ => 1

end Outcome

def runInvocation (s : Surroundings) (i : Invocation) (m : Manager b) : Outcome × Manager b :=
  match i.options.log with
  | some name =>
    if (LogLevel.ofName? name).isNone then
      (.failed { message := "Unknown log level: " ++ name }, m)
    else body
  | none => body
where
  body : Outcome × Manager b :=
    match setUp s.files i.options m with
    | .error e m => (.failed (.ofError e), m)
    | .ok _ m =>
      match i.command with
      | none => (.failed { message := "No command given." }, m)
      | some command =>
        match (do share; runCommand s command : Step b String) m with
        | .ok text m => (.printed text, m)
        | .error e m => (.failed (.ofError e), m)

def run (s : Surroundings) (words : List String) (world : b.World) : Outcome × Manager b :=
  match Invocation.read words with
  | .error fault => (.usage fault, freshManager world)
  | .ok i => runInvocation s i (freshManager world)

end RunConditions.CommandLine
