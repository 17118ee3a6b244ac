import RunConditions.Payload

/-!
# The cache of conditions data

An entry holds the data that a lookup has brought and the detector and run for
which it was made. There is at most one entry for each kind and name.
-/

set_option autoImplicit false

namespace RunConditions

structure CacheEntry where
  kind : Kind
  name : String
  payload : Payload
  detector : Option String
  run : Int

def CacheEntry.isFor (e : CacheEntry) (kind : Kind) (name : String) : Bool :=
  e.kind == kind && e.name == name

structure Cache where
  entries : List CacheEntry := []

namespace Cache

def find? (c : Cache) (kind : Kind) (name : String) : Option CacheEntry :=
  c.entries.find? (·.isFor kind name)

/-- The cached data, if they are of the kind that they are cached under. -/
def data? (c : Cache) (kind : Kind) (name : String) : Option kind.Data :=
  (c.find? kind name).bind (·.payload.as? kind)

/-- A new entry takes the place of the one for the same kind and name. -/
def insert (c : Cache) (e : CacheEntry) : Cache :=
  ⟨e :: c.entries.filter (!·.isFor e.kind e.name)⟩

def without (c : Cache) (kind : Kind) : Cache :=
  ⟨c.entries.filter (·.kind != kind)⟩

def count (c : Cache) (detector : Option String) (run : Int) : Nat :=
  (c.entries.filter fun e => e.run == run && e.detector == detector).length

end Cache
end RunConditions
