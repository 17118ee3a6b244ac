import RunConditions.Database.Backend

/-!
# The link to the database

There is at most one connection. Opening is left undone while one is open, and
tells whether this call did it, so that nested callers can share a connection
and only the one that opened it closes it. Closing also drops the parameters,
whether or not the database closes without an error.
-/

set_option autoImplicit false

namespace RunConditions

structure Link (b : Backend) where
  parameters : Option Parameters := none
  handle : Option b.Handle := none
  world : b.World

namespace Link

variable {b : Backend} {α : Type}

def isConnected (l : Link b) : Bool :=
  match l.handle with
  | some h => !b.isClosed h l.world
  | none => false

def act (f : b.World → Except Error α × b.World) : EStateM Error (Link b) α := fun l =>
  match f l.world with
  | (.ok a, w) => .ok a { l with world := w }
  | (.error e, w) => .error e { l with world := w }

/-- Parameters take effect when a connection is opened next. -/
def setParameters (p : Parameters) : EStateM Error (Link b) Unit :=
  modify fun l => { l with parameters := some p }

/-- Opens the connection unless it is open, and tells whether this call did. -/
def connect : EStateM Error (Link b) Bool := do
  let l ← get
  if l.isConnected then return false
  match l.parameters with
  | none => throw (.configuration .noParameters)
  | some p =>
    let h ← act (b.connect p)
    modify fun l => { l with handle := some h }
    return true

def forceDisconnect : EStateM Error (Link b) Bool := do
  let l ← get
  set { l with parameters := none, handle := none }
  match l.handle with
  | none => return false
  | some h =>
    unless b.isClosed h l.world do act (b.close h)
    return true

/-- Closes the connection if the caller is the one that opened it. -/
def disconnect (openedHere : Bool) : EStateM Error (Link b) Bool :=
  if openedHere then forceDisconnect else return false

def use (f : b.Handle → String → b.World → Except Error α × b.World) (sql : String) :
    EStateM Error (Link b) α := do
  let l ← get
  match l.handle with
  | none => throw (.query sql .notOpen)
  | some h => if b.isClosed h l.world then throw (.query sql .notOpen) else act (f h sql)

def select (sql : String) : EStateM Error (Link b) ResultSet :=
  use b.select sql

def update (sql : String) : EStateM Error (Link b) (List Int) :=
  use b.update sql

end Link
end RunConditions
