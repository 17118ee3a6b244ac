import RunConditions.Text.Letters

/-!
# Log levels

A level can be given by its own name or by one of the finer or coarser names
that older job scripts use. Letter case does not count.
-/

set_option autoImplicit false

namespace RunConditions

inductive LogLevel where
  | trace
  | debug
  | info
  | warn
  | error
  deriving DecidableEq, Repr

namespace LogLevel

def name : LogLevel → String
  | trace => "TRACE"
  | debug => "DEBUG"
  | info => "INFO"
  | warn => "WARN"
  | error => "ERROR"

def ofCapitals? : String → Option LogLevel
  | "TRACE" | "ALL" | "FINEST" | "FINER" => some trace
  | "DEBUG" | "FINE" | "CONFIG" => some debug
  | "INFO" => some info
  | "WARN" | "WARNING" => some warn
  | "ERROR" | "SEVERE" => some error
  | _ => none

def ofName? (name : String) : Option LogLevel :=
  (Text.capitals? name.toList).bind fun cs => ofCapitals? (String.ofList cs)

end LogLevel
end RunConditions
