import RunConditions.Text.Numeral

/-!
# Reading command lines

A command line is read word by word from left to right. An option takes its
value from the same word or from the next one. A value from the next word is
settled only when another option, or the end, is reached, so that an unknown
word in between is reported first. A double dash ends the options, and nothing
may follow it.
-/

set_option autoImplicit false

namespace RunConditions.CommandLine

inductive UsageFault where
  | displayHelp
  | helpOnMissing
  | invalidValue
  | unknownArgument
  | invalidSubcommand
  | argumentConflict
  | valueValidation
  | missingRequired
  | tooManyValues
  deriving DecidableEq, Repr

namespace UsageFault

def name : UsageFault → String
  | displayHelp => "DisplayHelp"
  | helpOnMissing => "DisplayHelpOnMissingArgumentOrSubcommand"
  | invalidValue => "InvalidValue"
  | unknownArgument => "UnknownArgument"
  | invalidSubcommand => "InvalidSubcommand"
  | argumentConflict => "ArgumentConflict"
  | valueValidation => "ValueValidation"
  | missingRequired => "MissingRequiredArgument"
  | tooManyValues => "TooManyValues"

def exitCode : UsageFault → Nat
  | displayHelp => 0
  | _ => 2

end UsageFault

inductive Accepts where
  | text
  | path
  | integer64
  | integer32
  deriving DecidableEq, Repr

inductive Argument where
  | text (s : String)
  | number (n : Int)
  deriving DecidableEq, Repr

def Accepts.read (value : String) : Accepts → Except UsageFault Argument
  | text => .ok (.text value)
  | path => if value.isEmpty then .error .invalidValue else .ok (.text value)
  | integer64 => number (Numeral.readInt64? value.toList)
  | integer32 => number (Numeral.readInt32? value.toList)
where
  number : Option Int → Except UsageFault Argument
    | some n => .ok (.number n)
    | none => .error .valueValidation

structure Flag where
  name : String
  letter : Char
  long : Option String := none
  accepts : Accepts := .text
  deriving DecidableEq, Repr

structure Level where
  flags : List Flag
  commands : List String := []
  deriving DecidableEq, Repr

/-- Accepted options by name, and the one whose value has not been settled. -/
structure Reading where
  given : List (String × Argument) := []
  pending : Option (Flag × Option String) := none
  deriving DecidableEq, Repr

namespace Reading

def awaits (r : Reading) : Bool :=
  match r.pending with
  | some (_, none) => true
  | _ => false

def assign (r : Reading) (f : Flag) (value : String) : Except UsageFault Reading :=
  if (r.given.lookup f.name).isSome then .error .argumentConflict
  else (f.accepts.read value).map fun a => { r with given := (f.name, a) :: r.given }

def settle (r : Reading) : Except UsageFault Reading :=
  match r.pending with
  | none => .ok r
  | some (_, none) => .error .invalidValue
  | some (f, some value) => { r with pending := none }.assign f value

def option (r : Reading) (f : Flag) (attached : Option String) : Except UsageFault Reading := do
  let r ← r.settle
  match attached with
  | some value => r.assign f value
  | none => return { r with pending := some (f, none) }

def value (r : Reading) (word : String) : Reading :=
  { r with pending := r.pending.map fun (f, _) => (f, some word) }

def helpWanted (r : Reading) : Except UsageFault Reading := do
  let _ ← r.settle
  throw .displayHelp

def longOption (r : Reading) (flags : List Flag) (cs : List Char) : Except UsageFault Reading :=
  let name := String.ofList (cs.takeWhile (· != '='))
  let attached := match cs.dropWhile (· != '=') with
    | [] => none
    | _ :: rest => some (String.ofList rest)
  match flags.find? (·.long == some name), attached with
  | some f, _ => r.option f attached
  | none, none => if name = "help" then r.helpWanted else .error .unknownArgument
  | none, some _ => .error (if name = "help" then .tooManyValues else .unknownArgument)

def shortOption (r : Reading) (flags : List Flag) (letter : Char) (cs : List Char) :
    Except UsageFault Reading :=
  let attached := match cs with
    | [] => none
    | '=' :: rest => some (String.ofList rest)
    | rest => some (String.ofList rest)
  match flags.find? (·.letter == letter) with
  | some f => r.option f attached
  | none => if letter = 'h' then r.helpWanted else .error .unknownArgument

def stray (level : Level) : UsageFault :=
  if level.commands.isEmpty then .unknownArgument else .invalidSubcommand

/-- The fault of a word behind a double dash, where even the name of a command is
only an unknown argument. -/
def behindDashes (level : Level) (word : String) : UsageFault :=
  if level.commands.contains word then .unknownArgument else stray level

def words (level : Level) : List String → Reading →
    Except UsageFault (Reading × Option (String × List String))
  | [], r => .ok (r, none)
  | word :: rest, r =>
    if !r.awaits && level.commands.contains word then .ok (r, some (word, rest))
    else
      match word.toList with
      | ['-', '-'] =>
        match rest with
        | [] => .ok (r, none)
        | next :: _ => .error (behindDashes level next)
      | '-' :: '-' :: cs => do words level rest (← r.longOption level.flags cs)
      | '-' :: c :: cs => do words level rest (← r.shortOption level.flags c cs)
      | _ => if r.awaits then words level rest (r.value word) else .error (stray level)

def text? (r : Reading) (name : String) : Option String :=
  match r.given.lookup name with
  | some (.text s) => some s
  | _ => none

def number? (r : Reading) (name : String) : Option Int :=
  match r.given.lookup name with
  | some (.number n) => some n
  | _ => none

def required {α : Type} : Option α → Except UsageFault α
  | some a => .ok a
  | none => .error .missingRequired

end Reading
end RunConditions.CommandLine
