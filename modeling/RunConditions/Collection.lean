/-!
# Collections of rows

The rows that belong together in one table share a collection id, which is
known once they have been read for it.
-/

set_option autoImplicit false

namespace RunConditions

structure Collection (α : Type) where
  rows : List α := []
  id : Option Int := none
  deriving DecidableEq

namespace Collection

variable {α : Type}

def length (c : Collection α) : Nat := c.rows.length

def isEmpty (c : Collection α) : Bool := c.rows.isEmpty

def filter (p : α → Bool) (c : Collection α) : Collection α :=
  { rows := c.rows.filter p }

def find? (p : α → Bool) (c : Collection α) : Option α :=
  c.rows.find? p

def withId (c : Collection α) (id : Int) : Collection α :=
  { c with id := some id }

end Collection
end RunConditions
