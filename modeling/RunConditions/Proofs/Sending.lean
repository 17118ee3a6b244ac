import RunConditions.Proofs.Atomicity
import RunConditions.Proofs.Selection
import RunConditions.Proofs.Wording

/-!
# What lookups send

Looking conditions up, asking for collection ids and adding a record send
statements about configured tables only. What is in the database decides which
ones, for a table may be named by a record that has been read. Its name is
looked up in the configuration first, and the texts of a new record go into
literals.
-/

set_option autoImplicit false

namespace RunConditions

def Operation.concernsConditions : Operation → Bool
  | getConditions _ _ | getDetector | findRecords _ | addRecord _ | nextCollectionId _
  | collectionExists _ _ => true
  | _ => false

namespace Manager

variable {b : Backend} {α : Type}

def ShipsAll (m : Manager b) : Prop :=
  ∀ k c, m.converters.find? k = some c → c.Ships

theorem Shipped.shipsAll {m : Manager b} (hm : m.Shipped) : m.ShipsAll :=
  fun k c hc => Converter.ships_of_shipped (hm k c hc)

/-- The configuration is as it was, and only statements about its tables have
been sent. -/
structure Sends (m₀ m : Manager b.recorded) : Prop where
  tables : m.tables = m₀.tables
  converters : m.converters = m₀.converters
  sent : ∃ statements : List Sql.Statement,
    m.sent = m₀.sent ++ statements.map Sql.Statement.text ∧
      ∀ statement ∈ statements, Sql.About m₀.tables statement

section Sending

variable {m₀ : Manager b.recorded} {look : (k : Kind) → String → Step b.recorded k.Data}

theorem Sends.refl (m₀ : Manager b.recorded) : Sends m₀ m₀ :=
  ⟨rfl, rfl, [], by simp, by simp⟩

theorem use_sends {statement : Sql.Statement} (hs : Sql.About m₀.tables statement)
    (f : b.recorded.Handle → String → b.recorded.World → Except Error α × b.recorded.World)
    (hf : ∀ h sql w, (f h sql w).2.2 = w.2 ++ [sql]) :
    Keeps (Sends m₀) (onLink (Link.use f statement.text)) := by
  intro m hm
  rw [final_onLink]
  cases hc : m.link.isConnected with
  | false =>
    rw [final, Link.use_eq_error hc]
    exact hm
  | true =>
    obtain ⟨h, hh, ho⟩ := Link.isConnected_eq_true.mp hc
    rw [final, Link.use_eq_act hh ho, ← final, Link.final_act]
    obtain ⟨statements, hsent, habout⟩ := hm.sent
    refine ⟨hm.tables, hm.converters, statements ++ [statement], ?_, ?_⟩
    · show (f h statement.text m.link.world).2.2 = _
      have hworld : m.link.world.2 = m₀.sent ++ statements.map Sql.Statement.text := hsent
      rw [hf, hworld, List.map_append, List.append_assoc]
      rfl
    · intro other hother
      rcases List.mem_append.mp hother with hold | hnew
      · exact habout other hold
      · rwa [List.mem_singleton.mp hnew]

theorem select_sends {statement : Sql.Statement} (hs : Sql.About m₀.tables statement) :
    Keeps (Sends m₀) (select statement.text) :=
  use_sends hs b.recorded.select fun _ _ _ => rfl

theorem update_sends {statement : Sql.Statement} (hs : Sql.About m₀.tables statement) :
    Keeps (Sends m₀) (update statement.text) :=
  use_sends hs b.recorded.update fun _ _ _ => rfl

theorem Sends.mem_tables {m : Manager b.recorded} (hm : Sends m₀ m) {name : String} {t : Table}
    (ht : m.tables.find? name = some t) : t ∈ m₀.tables.list := by
  rw [hm.tables] at ht
  exact List.mem_of_find?_eq_some ht

/-- What is done with a configured table may send statements about it. -/
theorem requireTable_sends (name : String) {f : Table → Step b.recorded α}
    (hf : ∀ t ∈ m₀.tables.list, Keeps (Sends m₀) (f t)) :
    Keeps (Sends m₀) (requireTable name >>= f) := by
  intro m hm
  rw [final, bind_apply]
  simp only [requireTable, bind_apply, get_apply]
  cases ht : m.tables.find? name with
  | none => exact hm
  | some t => exact hf t (hm.mem_tables ht) m hm

theorem sends_askable : Askable (Sends m₀) where
  records hm _ ht := select_sends (.all (hm.mem_tables ht)) _ hm
  rows collection hm ht := select_sends (.collection (hm.mem_tables ht) collection) _ hm

theorem lookup_sends (hm₀ : m₀.ShipsAll) (depth : Nat) (k : Kind) (name : String) :
    Keeps (Sends m₀) (lookup depth k name) := by
  apply Alike.keeps
  apply lookup_both
  intro depth k name hlook
  apply materialize_both
  · intro m c hm hc
    rw [hm.converters] at hc
    exact (sends_askable.plan (fun name => (hlook .records name).keeps) (hm₀ k c hc) name).alike
  · intro _ _ _ _ _ _ _ hm _
    exact ⟨hm.tables, hm.converters, hm.sent⟩

theorem nextCollectionId_sends (table : String) : Keeps (Sends m₀) (nextCollectionId table) := by
  apply requireTable_sends
  intro t ht
  apply (select_sends (.next ht)).bind
  intro result
  split
  · exact .pure _
  · split
    · exact .pure _
    · exact .throw _

theorem collectionExists_sends (table : String) (collection : Int) :
    Keeps (Sends m₀) (collectionExists table collection) := by
  apply requireTable_sends
  intro t ht
  exact (select_sends (.count ht collection)).bind fun _ => .pure _

theorem addRecord_sends (record : Record) : Keeps (Sends m₀) (addRecord record) := by
  apply Keeps.get_bind
  intro m _
  split
  · exact .throw _
  · apply requireTable_sends
    intro t ht
    apply (update_sends (.record ht record)).bind
    intro keys
    split
    · exact .throw _
    · apply Keeps.bind
      · exact fun _ hm => ⟨hm.tables, hm.converters, hm.sent⟩
      · exact fun _ => .pure _

theorem run_sends (hm₀ : m₀.ShipsAll) {op : Operation} (hop : op.concernsConditions = true) :
    Keeps (Sends m₀) op.run := by
  cases op with
  | getConditions kind name => exact lookup_sends hm₀ nestingLimit kind name
  | getDetector => exact lookup_sends hm₀ nestingLimit .detector detectorDescription
  | findRecords name => exact Askable.findRecords (lookup_sends hm₀ nestingLimit .records) name
  | addRecord record => exact addRecord_sends record
  | nextCollectionId table => exact nextCollectionId_sends table
  | collectionExists table collection => exact collectionExists_sends table collection
  | _ => cases hop

end Sending

/-- All that is sent to look conditions up, to ask for collection ids and to add
a record is worded safely, whatever is in the database and whatever is asked. -/
theorem queries_worded {m : Manager b.recorded} (hm : m.ShipsAll) {op : Operation}
    (hop : op.concernsConditions = true) :
    ∃ statements : List Sql.Statement,
      (final op.run m).sent = m.sent ++ statements.map Sql.Statement.text ∧
        ∀ statement ∈ statements, Sql.Worded m.tables statement := by
  obtain ⟨statements, hsent, habout⟩ := (run_sends hm hop m (.refl m)).sent
  exact ⟨statements, hsent, fun statement hs => (habout statement hs).worded⟩

end Manager

namespace Script

def quotingRecord : Record where
  id := 0
  runStart := -1
  runEnd := 7
  name := "it's"
  table := "bad_channels'"
  collection := 3
  tag := none
  createdBy := some ""
  notes := some "'); DROP TABLE conditions; --"

def quotingInsert : String :=
  "INSERT INTO conditions (" ++ ", ".intercalate Record.columns ++ ") VALUES (-1, 7, 'it''s', " ++
    "'bad_channels''', 3, NULL, '', '''); DROP TABLE conditions; --') RETURNING id"

theorem quoting_worded :
    overlappingManager.ShipsAll ∧
      (final (Operation.addRecord quotingRecord).run overlappingManager).sent =
        overlappingManager.sent ++ [quotingInsert] ∧
      ∃ statements : List Sql.Statement,
        (final (Operation.addRecord quotingRecord).run overlappingManager).sent =
          overlappingManager.sent ++ statements.map Sql.Statement.text ∧
        ∀ statement ∈ statements, Sql.Worded overlappingManager.tables statement :=
  have hships := overlappingManager_reachable.shipped.shipsAll
  ⟨hships, by decide +kernel, Manager.queries_worded hships rfl⟩

end Script
end RunConditions
