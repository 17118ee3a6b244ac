import RunConditions.Database.Backend
import RunConditions.Database.Column

/-!
# A server with typed columns

A connection to a server sends statements and decodes the rows that come back.
Once closed it does not reach the server any more. The server itself is a list
of prepared replies.
-/

set_option autoImplicit false

namespace RunConditions.Server

inductive Pattern where
  | exactly (sql : String)
  | startingWith (start : String)

def Pattern.covers : Pattern → String → Bool
  | exactly s, sql => s == sql
  | startingWith s, sql => s.isPrefixOf sql

structure Reply where
  pattern : Pattern
  rows : List Row := []
  error : Option String := none

structure State where
  replies : List Reply := []
  refusal : Option DatabaseFault := none
  log : List String := []

def State.reply (s : State) (sql : String) : Except DatabaseFault (List Row) :=
  match s.replies.find? (·.pattern.covers sql) with
  | none => .error (.server "no scripted result for this query")
  | some reply =>
    match reply.error with
    | some text => .error (.server text)
    | none => .ok reply.rows

structure Connection where
  target : String
  closed : Bool := false
  deriving DecidableEq, Repr

namespace Connection

def connect (p : Parameters) (s : State) : Except Error Connection × State :=
  match s.refusal with
  | some fault => (.error (.connection p.connectionString fault), s)
  | none => (.ok { target := p.connectionString }, s)

def send {α : Type} (decode : List Row → Except DatabaseFault α) (c : Connection) (sql : String)
    (s : State) : Except Error α × State :=
  if c.closed then (.error (.query sql (.alreadyClosed c.target)), s)
  else ((s.reply sql >>= decode).mapError (.query sql), { s with log := sql :: s.log })

def select : Connection → String → State → Except Error ResultSet × State :=
  send decodeRows

def update : Connection → String → State → Except Error (List Int) × State :=
  send decodeKeys

def close (c : Connection) : Connection :=
  { c with closed := true }

end Connection

def connectByDriver (p : Parameters) (s : State) : Except Error Connection × State :=
  if p.driver = "postgresql" ∨ p.driver = "postgres" then Connection.connect p s
  else (.error (.configuration (.unsupportedDriver p.driver)), s)

def backend : Backend where
  World := State
  Handle := Connection
  connect := connectByDriver
  select := Connection.select
  update := Connection.update
  close _ s := (.ok (), s)
  isClosed c _ := c.closed

end RunConditions.Server
