import RunConditions.Proofs.Frame

/-!
# Steps that only ask, and steps that fail cleanly

A step that only asks changes the database side and nothing else. What begins
with such steps and goes on with one that changes the manager for good is
atomic: if it fails, it has only asked. So are the operations of the manager
besides lookups and closing.
-/

set_option autoImplicit false

namespace RunConditions
namespace Manager

variable {b : Backend} {α β : Type}

theorem moved_moved (m : Manager b) (w w' : b.World) : (m.moved w).moved w' = m.moved w' := rfl

/-- Whether it fails or not, the step changes the database side alone. -/
def Asks (x : Step b α) : Prop :=
  ∀ m, ∃ w, final x m = m.moved w

/-- If it fails, the step has changed the database side alone. -/
def Atomic (x : Step b α) : Prop :=
  ∀ m e, outcome x m = .error e → ∃ w, final x m = m.moved w

theorem Asks.atomic {x : Step b α} (hx : Asks x) : Atomic x :=
  fun m _ _ => hx m

theorem Asks.of_unchanged {x : Step b α} (hx : ∀ m, final x m = m) : Asks x := by
  intro m
  exact ⟨m.link.world, hx m⟩

theorem Asks.throw (e : Error) : Asks (throw e : Step b α) :=
  .of_unchanged fun _ => rfl

theorem Asks.pure (a : α) : Asks (pure a : Step b α) :=
  .of_unchanged fun _ => rfl

theorem Asks.get : Asks (get : Step b (Manager b)) :=
  .of_unchanged fun _ => rfl

theorem Asks.conclude (r : Except Error α) : Asks (conclude r : Step b α) := by
  cases r with
  | ok a => exact .pure a
  | error e => exact .throw e

theorem Asks.bind {x : Step b α} {f : α → Step b β} (hx : Asks x) (hf : ∀ a, Asks (f a)) :
    Asks (x >>= f) := by
  intro m
  obtain ⟨w, hw⟩ := hx m
  cases ho : outcome x m with
  | error e => exact ⟨w, (final_bind_of_error ho).trans hw⟩
  | ok a =>
    obtain ⟨w', hw'⟩ := hf a (final x m)
    refine ⟨w', ?_⟩
    calc final (x >>= f) m = final (f a) (final x m) := final_bind_of_ok ho
      _ = (final x m).moved w' := hw'
      _ = m.moved w' := by rw [hw, moved_moved]

theorem Atomic.of_total {x : Step b α} (hx : ∀ m, ∃ a, outcome x m = .ok a) : Atomic x := by
  intro m e he
  obtain ⟨a, ha⟩ := hx m
  rw [ha] at he
  cases he

theorem Atomic.modify (f : Manager b → Manager b) : Atomic (modify f : Step b PUnit) :=
  .of_total fun _ => ⟨⟨⟩, rfl⟩

theorem Atomic.bind {x : Step b α} {f : α → Step b β} (hx : Asks x) (hf : ∀ a, Atomic (f a)) :
    Atomic (x >>= f) := by
  intro m e he
  obtain ⟨w, hw⟩ := hx m
  cases ho : outcome x m with
  | error e' => exact ⟨w, (final_bind_of_error ho).trans hw⟩
  | ok a =>
    rw [outcome_bind_of_ok ho] at he
    obtain ⟨w', hw'⟩ := hf a (final x m) e he
    refine ⟨w', ?_⟩
    calc final (x >>= f) m = final (f a) (final x m) := final_bind_of_ok ho
      _ = (final x m).moved w' := hw'
      _ = m.moved w' := by rw [hw, moved_moved]

theorem Atomic.andThen {x : Step b α} {f : α → Step b β} (hx : Atomic x)
    (hf : ∀ a m, ∃ c, outcome (f a) m = .ok c) : Atomic (x >>= f) := by
  intro m e he
  cases ho : outcome x m with
  | error e' =>
    obtain ⟨w, hw⟩ := hx m e' ho
    exact ⟨w, (final_bind_of_error ho).trans hw⟩
  | ok a =>
    obtain ⟨c, hc⟩ := hf a (final x m)
    rw [outcome_bind_of_ok ho, hc] at he
    cases he

theorem asks_use (f : b.Handle → String → b.World → Except Error α × b.World) (sql : String) :
    Asks (onLink (Link.use f sql)) := by
  intro m
  obtain ⟨w, hw⟩ := Link.final_use f sql m.link
  refine ⟨w, ?_⟩
  rw [final_onLink, hw]
  rfl

theorem asks_select (sql : String) : Asks (select (b := b) sql) :=
  asks_use b.select sql

theorem asks_update (sql : String) : Asks (update (b := b) sql) :=
  asks_use b.update sql

theorem asks_openText (name : String) : Asks (openText (b := b) name) :=
  Asks.get.bind fun _ => .conclude _

theorem asks_requireTable (name : String) : Asks (requireTable (b := b) name) := by
  apply Asks.get.bind
  intro m
  split
  · exact .pure _
  · exact .throw _

theorem asks_nextCollectionId (table : String) : Asks (nextCollectionId (b := b) table) := by
  apply (asks_requireTable table).bind
  intro t
  apply (asks_select _).bind
  intro result
  split
  · exact .pure _
  · split
    · exact .pure _
    · exact .throw _

theorem asks_collectionExists (table : String) (collection : Int) :
    Asks (collectionExists (b := b) table collection) := by
  apply (asks_requireTable table).bind
  intro t
  apply (asks_select _).bind
  intro result
  exact .pure _

theorem atomic_connect : Atomic (connect (b := b)) := by
  intro m e he
  rw [connect, outcome_onLink] at he
  rw [connect, final_onLink]
  cases hc : m.link.isConnected with
  | true =>
    rw [outcome, Link.connect_eq_ok hc] at he
    cases he
  | false =>
    cases hp : m.link.parameters with
    | none =>
      refine ⟨m.link.world, ?_⟩
      rw [final, Link.connect_of_no_parameters hc hp]
      rfl
    | some p =>
      rw [outcome, Link.connect_of_parameters hc hp] at he
      refine ⟨(b.connect p m.link.world).2, ?_⟩
      rw [final, Link.connect_of_parameters hc hp]
      cases hconnect : (b.connect p m.link.world).1 with
      | error e' => rfl
      | ok h =>
        rw [hconnect] at he
        cases he

theorem atomic_configure (config : Config) : Atomic (configure (b := b) config) :=
  .bind .get fun _ => .bind (.conclude _) fun _ => .modify _

theorem atomic_setParameters (p : Parameters) : Atomic (setParameters (b := b) p) :=
  .of_total fun _ => ⟨⟨⟩, rfl⟩

theorem atomic_setDetector (detector : String) (run : Int) :
    Atomic (setDetector (b := b) detector run) := by
  apply Atomic.bind .get
  intro m
  dsimp only
  split
  · split
    · exact .modify _
    · exact atomic_connect.andThen fun _ _ => ⟨⟨⟩, rfl⟩
  · exact (Asks.throw _).atomic

theorem atomic_addRecord (record : Record) : Atomic (addRecord (b := b) record) := by
  apply Atomic.bind .get
  intro m
  split
  · exact (Asks.throw _).atomic
  · apply Atomic.bind (asks_requireTable _)
    intro t
    apply Atomic.bind (asks_update _)
    intro keys
    split
    · exact (Asks.throw _).atomic
    · exact (Atomic.modify _).andThen fun _ _ => ⟨_, rfl⟩

end Manager
end RunConditions
