import RunConditions.CommandLine.Tool
import RunConditions.Database.Server

/-!
# The program

The outer layer fetches the files that the command line names and the name of
the user, runs the tool, and prints how it ends. It has no connection to the
network, so each attempt to open a database is refused.
-/

set_option autoImplicit false

namespace RunConditions.CommandLine

def usage : String :=
  "Usage: [-p FILE] [-x FILE] [-l LEVEL] COMMAND\n\n" ++
  "  load   inserts the rows of a file    -t TABLE -f FILE [-c COLLECTION]\n" ++
  "  add    adds a conditions record      -n NAME -t TABLE -c COLLECTION -s RUN -e RUN\n" ++
  "                                       [-u USER] [-m NOTES] [-T TAG]\n" ++
  "  print  shows conditions records      -n NAME [-r RUN]"

def probe (path : String) : IO FileState := do
  try
    return .ofBytes (← IO.FS.readBinFile path)
  catch
    | .inappropriateType .. => return .directory
    | _ => return .missing

def probeAll (paths : List String) : IO Files := do
  let found ← paths.mapM fun path => return (path, ← probe path)
  return fun path => (found.lookup path).getD .missing

def noServer : Server.State :=
  { refusal := some (.other "there is no connection to the network") }

def report : Outcome → IO Unit
  | .usage .displayHelp => IO.println usage
  | .usage fault => IO.eprintln ("error: " ++ fault.name ++ "\n\n" ++ usage)
  | .printed text => IO.println text
  | .failed failure => IO.eprintln failure.report

def program (words : List String) : IO UInt32 := do
  let paths := match Invocation.read words with
    | .ok invocation => invocation.paths
    | .error _ => []
  let surroundings : Surroundings :=
    { files := ← probeAll paths
      user := userName (← IO.getEnv "USER") (← IO.getEnv "USERNAME") }
  let (outcome, _) : Outcome × Manager Server.backend := run surroundings words noServer
  report outcome
  return UInt32.ofNat outcome.exitCode

end RunConditions.CommandLine

def main (words : List String) : IO UInt32 :=
  RunConditions.CommandLine.program words
