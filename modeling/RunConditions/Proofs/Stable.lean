import RunConditions.Proofs.Parallel

/-!
# Properties that last

A property that looks only at what a configuration and a run decide and at the
cache is out of reach for most operations. It lasts if a new configuration, a
new run and a new entry of the cache keep it, and then it holds of every
manager that callers can have.
-/

set_option autoImplicit false

namespace RunConditions
namespace Manager

variable {b : Backend} {α : Type} {P : Manager b → Prop}
  {look look' : (k : Kind) → String → Step b k.Data}

/-- A property that depends neither on the link nor on the reader nor on who
shares the manager, and that losing cached records does not harm. -/
structure Stable (P : Manager b → Prop) : Prop where
  link : ∀ m l, P m → P { m with link := l }
  reader : ∀ m r, P m → P { m with reader := r }
  shared : ∀ m, P m → P { m with shared := true }
  withoutRecords : ∀ m, P m → P m.withoutRecords

/-- A stable property that what converters make, new configurations and new
runs keep, whichever way conditions are looked up. -/
structure Lasting (P : Manager b → Prop) : Prop extends Stable P where
  cached : ∀ (look : (k : Kind) → String → Step b k.Data) (k : Kind) (name : String)
    (c : Converter) (payload : Payload) (m m' : Manager b), P m →
    m.converters.find? k = some c → carryOut look (c.plan name) m = .ok payload m' → P m' →
    payload.kind = k → P (m'.cached k name payload)
  setUp : ∀ (m : Manager b) (config : Config) (s : Setup), P m →
    setup m.types config = .ok s → P (m.setUp s)
  switched : ∀ (m : Manager b) (detector : String) (run : Int), P m → P (m.switched detector run)

/-- A property that nothing which operations do to a manager takes away, unless it
is a new entry of the cache. -/
structure Held (P : Manager b → Prop) : Prop where
  connect : Keeps P connect
  disconnect : ∀ openedHere, Keeps P (disconnect openedHere)
  forceDisconnect : Keeps P forceDisconnect
  setParameters : ∀ p, Keeps P (setParameters p)
  select : ∀ sql, Keeps P (select sql)
  update : ∀ sql, Keeps P (update sql)
  reader : ∀ m r, P m → P { m with reader := r }
  shared : ∀ m, P m → P { m with shared := true }
  withoutRecords : ∀ m, P m → P m.withoutRecords
  setUp : ∀ (m : Manager b) (config : Config) (s : Setup), P m →
    setup m.types config = .ok s → P (m.setUp s)
  switched : ∀ (m : Manager b) (detector : String) (run : Int), P m → P (m.switched detector run)

structure Kept (P : Manager b → Prop) : Prop extends Held P where
  cached : ∀ (look : (k : Kind) → String → Step b k.Data) (k : Kind) (name : String)
    (c : Converter) (payload : Payload) (m m' : Manager b), P m →
    m.converters.find? k = some c → carryOut look (c.plan name) m = .ok payload m' → P m' →
    payload.kind = k → P (m'.cached k name payload)

theorem Stable.onLink_keeps (hs : Stable P) (x : EStateM Error (Link b) α) :
    Keeps P (onLink x) := by
  intro m hp
  rw [final_onLink]
  exact hs.link m _ hp

theorem Stable.held (hs : Stable P)
    (hsetUp : ∀ (m : Manager b) (config : Config) (s : Setup), P m →
      setup m.types config = .ok s → P (m.setUp s))
    (hswitched : ∀ (m : Manager b) (detector : String) (run : Int), P m →
      P (m.switched detector run)) : Held P where
  connect := hs.onLink_keeps _
  disconnect _ := hs.onLink_keeps _
  forceDisconnect := hs.onLink_keeps _
  setParameters _ := hs.onLink_keeps _
  select _ := hs.onLink_keeps _
  update _ := hs.onLink_keeps _
  reader := hs.reader
  shared := hs.shared
  withoutRecords := hs.withoutRecords
  setUp := hsetUp
  switched := hswitched

theorem Lasting.kept (hl : Lasting P) : Kept P where
  toHeld := hl.toStable.held hl.setUp hl.switched
  cached := hl.cached

/-- What keeps a property of one manager does the same to two that are equal. -/
theorem both_parallel (connect : Keeps P connect)
    (disconnect : ∀ openedHere, Keeps P (disconnect openedHere))
    (forceDisconnect : Keeps P forceDisconnect) (setParameters : ∀ p, Keeps P (setParameters p))
    (select : ∀ sql, Keeps P (select sql)) (update : ∀ sql, Keeps P (update sql))
    (readingBy : ∀ m reader, P m → P (m.readingBy reader))
    (withoutRecords : ∀ m, P m → P m.withoutRecords)
    (shared : ∀ m, P m → P { m with shared := true })
    (setUp : ∀ (m : Manager b) (config : Config) (s : Setup), P m →
      setup m.types config = .ok s → P (m.setUp s))
    (switched : ∀ (m : Manager b) (detector : String) (run : Int), P m →
      P (m.switched detector run)) : Parallel (Both P) where
  types := by
    rintro m _ ⟨rfl, -⟩
    rfl
  view := by
    rintro m _ ⟨rfl, -⟩
    rfl
  reader := by
    rintro m _ ⟨rfl, -⟩
    rfl
  connect := connect.alike
  disconnect openedHere := (disconnect openedHere).alike
  forceDisconnect := forceDisconnect.alike
  setParameters p := (setParameters p).alike
  select sql := (select sql).alike
  update sql := (update sql).alike
  readingBy := by
    rintro m _ reader ⟨rfl, hp⟩
    exact ⟨rfl, readingBy m reader hp⟩
  withoutRecords := by
    rintro m _ ⟨rfl, hp⟩
    exact ⟨rfl, withoutRecords m hp⟩
  shared := by
    rintro m _ ⟨rfl, hp⟩
    exact ⟨rfl, shared m hp⟩
  setUp := by
    rintro m _ config s ⟨rfl, hp⟩ hs
    exact ⟨rfl, setUp m config s hp hs⟩
  switched := by
    rintro m _ detector run ⟨rfl, hp⟩
    exact ⟨rfl, switched m detector run hp⟩

namespace Held

theorem parallel (hk : Held P) : Parallel (Both P) :=
  both_parallel hk.connect hk.disconnect hk.forceDisconnect hk.setParameters hk.select hk.update
    (fun m _ => hk.reader m _) hk.withoutRecords hk.shared hk.setUp hk.switched

theorem perform_alike (hk : Held P)
    (hlook : ∀ k name, Alike (Both P) (look k name) (look' k name)) (q : Request) :
    Alike (Both P) (perform look q) (perform look' q) :=
  hk.parallel.perform_alike hlook q

theorem runBy_alike (hk : Held P)
    (hlook : ∀ k name, Alike (Both P) (look k name) (look' k name)) (op : Operation) :
    Alike (Both P) (op.runBy look) (op.runBy look') :=
  hk.parallel.runBy_alike hlook op

end Held

namespace Kept

theorem materialize_alike (hk : Kept P)
    (hlook : ∀ k name, Alike (Both P) (look k name) (look' k name)) (k : Kind) (name : String) :
    Alike (Both P) (materialize look k name) (materialize look' k name) :=
  materialize_both (fun _ c _ _ => carryOut_alike (hk.perform_alike hlook) (c.plan name))
    fun m m' c payload => hk.cached look k name c payload m m'

theorem lookup_alike (hk : Kept P) (depth : Nat) (k : Kind) (name : String) :
    Alike (Both P) (lookup (b := b) depth k name) (lookup depth k name) :=
  lookup_both (fun _ k name hlook => hk.materialize_alike hlook k name) depth k name

theorem run_keeps (hk : Kept P) (op : Operation) : Keeps P op.run :=
  (hk.runBy_alike (fun k name => hk.lookup_alike nestingLimit k name) op).keeps

end Kept

theorem Lasting.runBy_alike (hl : Lasting P)
    (hlook : ∀ k name, Alike (Both P) (look k name) (look' k name)) (op : Operation) :
    Alike (Both P) (op.runBy look) (op.runBy look') :=
  hl.kept.runBy_alike hlook op

/-- The managers that callers can have: a new one with any link, and what
operations and changes of the database side make of it. -/
inductive Reachable (types : Types) : Manager b → Prop
  | new (reader : Reader) (link : Link b) : Reachable types { types, reader, link }
  | step {m : Manager b} (op : Operation) :
      Reachable types m → Reachable types (final op.run m)
  | drift {m : Manager b} (world : b.World) :
      Reachable types m → Reachable types (m.moved world)

theorem Reachable.afterwards {types : Types} {m : Manager b} (hm : Reachable types m)
    (ops : List Operation) : Reachable types (afterwards getConditions ops m) := by
  induction ops generalizing m with
  | nil => exact hm
  | cons op ops ih => exact ih (.step op hm)

/-- A lasting property of new managers holds of all that callers can have. -/
theorem Lasting.reachable (hl : Lasting P) {types : Types}
    (hnew : ∀ reader link, P { types, reader, link }) {m : Manager b} (hm : Reachable types m) :
    P m := by
  induction hm with
  | new reader link => exact hnew reader link
  | @step m op _ ih =>
    exact hl.kept.run_keeps op m ih
  | @drift m world _ ih => exact hl.link m (m.link.moved world) ih

end Manager
end RunConditions
