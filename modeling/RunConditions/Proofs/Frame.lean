import RunConditions.Proofs.Link
import RunConditions.Proofs.Operation

/-!
# What operations read and change

For each operation of the manager: what of the manager it reads, and what it
does to the manager when it succeeds. Two managers that are related go through
the operation alike if they agree in what it reads and stay related under what
it does.
-/

set_option autoImplicit false

namespace RunConditions
namespace Manager

variable {b b' : Backend} {α : Type} {R : Manager b → Manager b' → Prop}

def moved (m : Manager b) (w : b.World) : Manager b :=
  { m with link := m.link.moved w }

def setUp (m : Manager b) (s : Setup) : Manager b :=
  { m with
    tables := s.tables, converters := s.converters
    conditionsTable := some s.conditionsTable, cache := {}, configured := true }

def switched (m : Manager b) (detector : String) (run : Int) : Manager b :=
  { m with reader := m.reader.withPath detector, cache := {}, detector := some detector, run }

def readingBy (m : Manager b) (reader : Reader) : Manager b :=
  { m with reader := match m.detector with
      | some detector => reader.withPath detector
      | none => reader }

def withoutRecords (m : Manager b) : Manager b :=
  { m with cache := m.cache.without .records }

theorem outcome_onLink (x : EStateM Error (Link b) α) (m : Manager b) :
    outcome (onLink x) m = outcome x m.link := by
  simp only [outcome, onLink]
  cases x m.link <;> rfl

theorem final_onLink (x : EStateM Error (Link b) α) (m : Manager b) :
    final (onLink x) m = { m with link := final x m.link } := by
  simp only [final, onLink]
  cases x m.link <;> rfl

theorem onLink_alike {x : EStateM Error (Link b) α} {y : EStateM Error (Link b') α}
    (h : ∀ m m', R m m' → outcome x m.link = outcome y m'.link ∧
      R { m with link := final x m.link } { m' with link := final y m'.link }) :
    Alike R (onLink x) (onLink y) := by
  intro m m' hr
  rw [outcome_onLink, outcome_onLink, final_onLink, final_onLink]
  exact h m m' hr

theorem configure_apply {m : Manager b} {config : Config} {s : Setup}
    (hs : setup m.types config = .ok s) : configure config m = .ok ⟨⟩ (m.setUp s) := by
  simp only [configure, bind_apply, get_apply, hs, conclude_ok, pure_apply, modify_apply, setUp]

theorem configure_alike (config : Config) (htypes : ∀ m m', R m m' → m.types = m'.types)
    (h : ∀ m m' s, R m m' → setup m.types config = .ok s → R (m.setUp s) (m'.setUp s)) :
    Alike R (configure config) (configure config) := by
  intro m m' hr
  simp only [outcome, final, configure, bind_apply, get_apply, ← htypes m m' hr]
  cases hs : setup m.types config with
  | error e => exact ⟨rfl, hr⟩
  | ok s => exact ⟨rfl, h m m' s hr hs⟩

theorem configureText_alike (text : String)
    (h : ∀ config, Alike R (configure config) (configure config)) :
    Alike R (configureText text) (configureText text) :=
  (Alike.conclude _).bind h

theorem configureFile_alike (files : Files) (path : String)
    (h : ∀ config, Alike R (configure config) (configure config)) :
    Alike R (configureFile files path) (configureFile files path) :=
  (Alike.conclude _).bind h

theorem configureResource_alike (name : String)
    (h : ∀ config, Alike R (configure config) (configure config)) :
    Alike R (configureResource name) (configureResource name) :=
  (Alike.conclude _).bind h

theorem setProperties_alike (files : Files) (path : String)
    (h : ∀ p, Alike R (setParameters p) (setParameters p)) :
    Alike R (setProperties files path) (setProperties files path) :=
  (Alike.conclude _).bind h

theorem setResource_alike (name : String)
    (h : ∀ p, Alike R (setParameters p) (setParameters p)) :
    Alike R (setResource name) (setResource name) :=
  (Alike.conclude _).bind h

theorem setDetector_alike (detector : String) (run : Int)
    (hparameters : ∀ m m', R m m' → m.hasParameters = m'.hasParameters)
    (hconnected : ∀ m m', R m m' → m.isConnected = m'.isConnected)
    (hconnect : Alike R connect connect)
    (h : ∀ m m', R m m' → R (m.switched detector run) (m'.switched detector run)) :
    Alike R (setDetector detector run) (setDetector detector run) := by
  refine Alike.get_bind fun m m' hr => ?_
  rw [hparameters m m' hr, hconnected m m' hr]
  dsimp only
  split
  · split
    · exact Alike.modify h
    · exact hconnect.bind fun _ => Alike.modify h
  · exact fun _ _ hr => ⟨rfl, hr⟩

theorem openText_alike (name : String) (hreader : ∀ m m', R m m' → m.reader = m'.reader) :
    Alike R (openText name) (openText name) := by
  refine Alike.get_bind fun m m' hr => ?_
  rw [hreader m m' hr]
  exact Alike.conclude _

theorem setReader_alike (reader : Reader)
    (h : ∀ m m', R m m' → R (m.readingBy reader) (m'.readingBy reader)) :
    Alike R (setReader reader) (setReader reader) :=
  Alike.modify h

theorem requireTable_alike (name : String) (htables : ∀ m m', R m m' → m.tables = m'.tables) :
    Alike R (requireTable name) (requireTable name) := by
  refine Alike.get_bind fun m m' hr => ?_
  rw [htables m m' hr]
  split
  · exact Alike.pure _
  · exact Alike.throw _

theorem nextCollectionId_alike (table : String)
    (htables : ∀ m m', R m m' → m.tables = m'.tables)
    (hselect : ∀ sql, Alike R (select sql) (select sql)) :
    Alike R (nextCollectionId table) (nextCollectionId table) := by
  refine (requireTable_alike table htables).bind fun t => (hselect _).bind fun result => ?_
  split
  · exact Alike.pure _
  · split
    · exact Alike.pure _
    · exact Alike.throw _

theorem collectionExists_alike (table : String) (collection : Int)
    (htables : ∀ m m', R m m' → m.tables = m'.tables)
    (hselect : ∀ sql, Alike R (select sql) (select sql)) :
    Alike R (collectionExists table collection) (collectionExists table collection) :=
  (requireTable_alike table htables).bind fun _ => (hselect _).bind fun _ => Alike.pure _

theorem addRecord_alike (record : Record)
    (htable : ∀ m m', R m m' → m.conditionsTable = m'.conditionsTable)
    (htables : ∀ m m', R m m' → m.tables = m'.tables)
    (hupdate : ∀ sql, Alike R (update sql) (update sql))
    (h : ∀ m m', R m m' → R m.withoutRecords m'.withoutRecords) :
    Alike R (addRecord record) (addRecord record) := by
  refine Alike.get_bind fun m m' hr => ?_
  rw [htable m m' hr]
  split
  · exact Alike.throw _
  · refine (requireTable_alike _ htables).bind fun t => (hupdate _).bind fun keys => ?_
    split
    · exact Alike.throw _
    · exact (Alike.modify h).bind fun _ => Alike.pure _

theorem addRecord_apply {m : Manager b} {t : Table}
    (hname : m.conditionsTable = some t.name) (ht : m.tables.find? t.name = some t)
    (record : Record) :
    addRecord record m =
      match update (Sql.Statement.insertRecord t.name t.key record).text m with
      | .error e m' => .error e m'
      | .ok [] m' =>
        .error (.query (Sql.Statement.insertRecord t.name t.key record).text .noGeneratedKey) m'
      | .ok (id :: _) m' => .ok id m'.withoutRecords := by
  simp only [addRecord, requireTable, bind_apply, get_apply, hname, ht, pure_apply]
  cases update (Sql.Statement.insertRecord t.name t.key record).text m with
  | error e m' => rfl
  | ok keys m' => cases keys <;> rfl

theorem share_alike
    (h : ∀ m m', R m m' → R { m with shared := true } { m' with shared := true }) :
    Alike R share share :=
  Alike.modify h

theorem select_apply {m : Manager b} {h : b.Handle} (hh : m.link.handle = some h)
    (hc : b.isClosed h m.link.world = false) (sql : String) :
    select sql m = match (b.select h sql m.link.world).1 with
      | .ok result => .ok result (m.moved (b.select h sql m.link.world).2)
      | .error e => .error e (m.moved (b.select h sql m.link.world).2) := by
  simp only [select, onLink, Link.select, Link.use_eq_act hh hc, Link.act]
  rcases b.select h sql m.link.world with ⟨_ | _, w⟩ <;> rfl

theorem update_apply {m : Manager b} {h : b.Handle} (hh : m.link.handle = some h)
    (hc : b.isClosed h m.link.world = false) (sql : String) :
    update sql m = match (b.update h sql m.link.world).1 with
      | .ok keys => .ok keys (m.moved (b.update h sql m.link.world).2)
      | .error e => .error e (m.moved (b.update h sql m.link.world).2) := by
  simp only [update, onLink, Link.update, Link.use_eq_act hh hc, Link.act]
  rcases b.update h sql m.link.world with ⟨_ | _, w⟩ <;> rfl

theorem select_apply_of_not_connected {m : Manager b} (h : m.isConnected = false) (sql : String) :
    select sql m = .error (.query sql .notOpen) m := by
  simp only [select, onLink, Link.select, Link.use_eq_error h]

end Manager
end RunConditions
