import RunConditions.Parameters

/-!
# Databases as seen from the manager

A backend says how a connection is made, asked, changed and closed. The state
of the database side is a value of the type `World`, which every action may
change whether it succeeds or fails. An open connection is a value of the type
`Handle`, and it may be found closed without having been closed from here.
-/

set_option autoImplicit false

namespace RunConditions

structure Backend where
  World : Type
  Handle : Type
  connect : Parameters → World → Except Error Handle × World
  select : Handle → String → World → Except Error ResultSet × World
  /-- Changes the database and gives the generated keys in order. -/
  update : Handle → String → World → Except Error (List Int) × World
  close : Handle → World → Except Error Unit × World
  isClosed : Handle → World → Bool

def attempt {σ α : Type} (x : EStateM Error σ α) : EStateM Error σ (Except Error α) := fun s =>
  match x s with
  | .ok a s => .ok (.ok a) s
  | .error e s => .ok (.error e) s

def conclude {σ α : Type} : Except Error α → EStateM Error σ α
  | .ok a => pure a
  | .error e => throw e

end RunConditions
