import RunConditions.Parameters
import RunConditions.Reader
import RunConditions.Table

/-!
# Plans of converters

A converter may ask the manager for other conditions, for rows of the database
and for texts of the reader, and it may change what it is allowed to change.
What it does is a plan: a tree of requests that branches on their answers. The
plan is plain data, so that a manager can hold converters, and carrying it out
is left to the manager. No request reconfigures the manager or switches the
run.
-/

set_option autoImplicit false

namespace RunConditions

structure View where
  run : Int
  detector : Option String
  conditionsTable : Option String
  tables : Tables
  configured : Bool
  connected : Bool
  connectionString : Option String
  cached : Nat

inductive Request where
  | view
  | lookup (kind : Kind) (name : String)
  | openText (name : String)
  | select (sql : String)
  | update (sql : String)
  | addRecord (record : Record)
  | connect
  | disconnect (openedHere : Bool)
  | forceDisconnect
  | setParameters (parameters : Parameters)
  | setReader (reader : Reader)

abbrev Request.Answer : Request → Type
  | view => View
  | lookup kind _ => kind.Data
  | openText _ => String
  | select _ => ResultSet
  | update _ => List Int
  | addRecord _ => Int
  | connect => Bool
  | disconnect _ => Bool
  | forceDisconnect => Bool
  | setParameters _ => Unit
  | setReader _ => Unit

/-- A plan goes on with the answer or the error of each request. -/
inductive Plan (α : Type) : Type where
  | done (a : α)
  | fail (e : Error)
  | ask (q : Request) (next : Except Error q.Answer → Plan α)

namespace Plan

variable {α β : Type}

def bind : Plan α → (α → Plan β) → Plan β
  | done a, f => f a
  | fail e, _ => fail e
  | ask q next, f => ask q fun answer => (next answer).bind f

instance : Monad Plan where
  pure := done
  bind := bind

def request (q : Request) : Plan q.Answer :=
  ask q fun
    | .ok answer => done answer
    | .error e => fail e

def ofExcept : Except Error α → Plan α
  | .ok a => done a
  | .error e => fail e

def ofOption (e : Error) : Option α → Plan α
  | some a => done a
  | none => fail e

end Plan
end RunConditions
