import RunConditions.Database.Backend

/-!
# A scripted database

A script says what a database answers. It fixes the results of reading
statements, the generated keys of changing statements by how they start, the
statements that fail, and how opening and closing go. All statements that
arrive are logged. Connections to it share one state, so that it can close
under an open link.
-/

set_option autoImplicit false

namespace RunConditions.Script

structure State where
  selects : List (String × ResultSet) := []
  updates : List (String × List Int) := []
  failing : List String := []
  connectError : Option String := none
  closeFails : Bool := false
  closed : Bool := true
  opens : Nat := 0
  log : List String := []

namespace State

def logged (s : State) (sql : String) : State :=
  { s with log := sql :: s.log }

def connect (_ : Parameters) (s : State) : Except Error Unit × State :=
  let s := { s with opens := s.opens + 1 }
  match s.connectError with
  | some reason => (.error (.configuration (.refused reason)), s)
  | none => (.ok (), { s with closed := false })

def failure (sql text : String) : Error :=
  .query sql (.other text)

def select (sql : String) (s : State) : Except Error ResultSet × State :=
  let answer :=
    if s.failing.contains sql then .error (failure sql "scripted failure")
    else
      match s.selects.lookup sql with
      | some rows => .ok rows
      | none => .error (failure sql "no scripted result for this query")
  (answer, s.logged sql)

def update (sql : String) (s : State) : Except Error (List Int) × State :=
  let answer :=
    if s.failing.contains sql then .error (failure sql "scripted failure")
    else .ok (((s.updates.find? fun u => u.1.isPrefixOf sql).map Prod.snd).getD [])
  (answer, s.logged sql)

def close (s : State) : Except Error Unit × State :=
  (if s.closeFails then .error (.connection "mock" .closedPool) else .ok (),
   { s with closed := true })

end State

def backend : Backend where
  World := State
  Handle := Unit
  connect := State.connect
  select _ := State.select
  update _ := State.update
  close _ := State.close
  isClosed _ s := s.closed

end RunConditions.Script
