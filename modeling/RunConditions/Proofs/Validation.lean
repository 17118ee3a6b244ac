import RunConditions.Proofs.Insertion

/-!
# Nothing unchecked is inserted

A load sends its insert only after everything has been checked: the table is
configured, the file can be read, the collection id is free, and each row has a
value for every column. The main result says for every load which queries it
sends, when just the insert is among them, and what its answer then means.
-/

set_option autoImplicit false

namespace RunConditions

variable {b : Backend}

def Event.query? : Event b → Option Query
  | .query _ q _ => some q
  | _ => none

def Link.asked (l : Link b.journaled) : List Query :=
  l.journal.filterMap Event.query?

theorem Link.asked_append (l : Link b.journaled) (h : b.Handle) (w : b.World)
    (queries : List Query) :
    (l.moved (w, l.journal ++ queries.map (.query h · true))).asked = l.asked ++ queries := by
  simp only [asked, moved, journal, List.filterMap_append, List.filterMap_map]
  congr 1
  exact List.filterMap_some

structure Backend.OwnFaults (b : Backend) : Prop where
  update : ∀ h sql w e, (b.update h sql w).1 = .error e →
    (∃ text fault, e = .query text fault) ∨ ∃ target fault, e = .connection target fault
  close : ∀ h w e, (b.close h w).1 = .error e →
    (∃ text fault, e = .query text fault) ∨ ∃ target fault, e = .connection target fault

section Unjournaled

variable {h : b.Handle} {w w' : b.journaled.World} {sql : String}

theorem select_unjournaled {answer : Except Error ResultSet}
    (hopen : b.journaled.isClosed h w = false)
    (hselect : b.journaled.select h sql w = (answer, w')) :
    b.select h sql w.1 = (answer, w'.1) ∧ w'.2 = w.2 ++ [.query h (.select sql) true] := by
  have hopen' : b.isClosed h w.1 = false := hopen
  simp only [Backend.journaled, hopen'] at hselect
  obtain ⟨rfl, rfl⟩ := hselect
  exact ⟨rfl, rfl⟩

theorem update_unjournaled {keys : Except Error (List Int)}
    (hopen : b.journaled.isClosed h w = false)
    (hupdate : b.journaled.update h sql w = (keys, w')) :
    b.update h sql w.1 = (keys, w'.1) ∧ w'.2 = w.2 ++ [.query h (.update sql) true] := by
  have hopen' : b.isClosed h w.1 = false := hopen
  simp only [Backend.journaled, hopen'] at hupdate
  obtain ⟨rfl, rfl⟩ := hupdate
  exact ⟨rfl, rfl⟩

end Unjournaled

namespace CommandLine
open Manager

theorem InsertionEnds.unjournaled {h : b.Handle} {w w' : b.journaled.World} {t : Table}
    {collection : Option Int} {data : DataFile} {o : Except Error LoadOutcome}
    {texts : List Query}
    (he : InsertionEnds (b := b.journaled) h w t collection data o texts w') :
    InsertionEnds (b := b) h w.1 t collection data o texts w'.1 ∧
      w'.2 = w.2 ++ texts.map (.query h · true) := by
  cases he with
  | lost hclosed => exact ⟨.lost hclosed, (List.append_nil _).symm⟩
  | idRefused hopen hselect =>
    obtain ⟨hselect', hjournal⟩ := select_unjournaled hopen hselect
    exact ⟨.idRefused hopen hselect', hjournal⟩
  | noId hopen hselect hid =>
    obtain ⟨hselect', hjournal⟩ := select_unjournaled hopen hselect
    exact ⟨.noId hopen hselect' hid, hjournal⟩
  | invalid hopen hselect hid hrows =>
    obtain ⟨hselect', hjournal⟩ := select_unjournaled hopen hselect
    exact ⟨.invalid hopen hselect' hid hrows, hjournal⟩
  | lostSince hopen hselect hid hrows hclosed =>
    obtain ⟨hselect', hjournal⟩ := select_unjournaled hopen hselect
    exact ⟨.lostSince hopen hselect' hid hrows hclosed, hjournal⟩
  | sent hopen hselect hid hrows hstill hupdate =>
    obtain ⟨hselect', hjournal⟩ := select_unjournaled hopen hselect
    obtain ⟨hupdate', hjournal'⟩ := update_unjournaled hstill hupdate
    refine ⟨.sent hopen hselect' hid hrows hstill hupdate', ?_⟩
    rw [hjournal', hjournal, List.append_assoc]
    rfl

/-- The connection on which a command does its work, and what the database side
is when the work begins. -/
inductive WorksOn (m : Manager b.journaled) : b.Handle → b.World → Prop where
  | shared {h : b.Handle} (hm : m.link.Holds h) : WorksOn m h m.link.world.1
  | owned {p : Parameters} {h : b.Handle} {w : b.World} (hm : m.isConnected = false)
      (hp : m.link.parameters = some p) (hconnect : b.connect p m.link.world.1 = (.ok h, w)) :
      WorksOn m h w

theorem WorksOn.unique {m : Manager b.journaled} {h h' : b.Handle} {w w' : b.World}
    (hm : WorksOn m h w) (hm' : WorksOn m h' w') : h = h' ∧ w = w' := by
  cases hm with
  | shared hh =>
    cases hm' with
    | shared hh' =>
      have hsame := hh.handle.symm.trans hh'.handle
      exact ⟨Option.some.inj hsame, rfl⟩
    | owned hc => exact absurd (hh.isConnected.symm.trans hc) (by decide)
  | owned hc hp hconnect =>
    cases hm' with
    | shared hh => exact absurd (hh.isConnected.symm.trans hc) (by decide)
    | owned hc' hp' hconnect' =>
      obtain rfl := Option.some.inj (hp.symm.trans hp')
      have hsame := hconnect.symm.trans hconnect'
      simp only [Prod.mk.injEq, Except.ok.injEq] at hsame
      exact hsame

theorem connected_of_no_connection {α : Type} {m : Manager b.journaled}
    (hm : ∀ h w, ¬ WorksOn m h w) (body : Step b.journaled α) :
    (∃ e, outcome (connected body) m = .error e) ∧
      (final (connected body) m).link.asked = m.link.asked := by
  have hc : m.isConnected = false := by
    cases hc : m.isConnected with
    | false => rfl
    | true =>
      obtain ⟨h, hh⟩ := Link.isConnected_iff_holds.mp hc
      exact absurd (.shared hh) (hm h _)
  cases hp : m.link.parameters with
  | none =>
    have hconnect : connect m = .error (.configuration .noParameters) m := by
      rw [connect, onLink, Link.connect_of_no_parameters hc hp]
    rw [outcome, final, connected_of_refused hconnect]
    exact ⟨⟨_, rfl⟩, rfl⟩
  | some p =>
    rcases hconnect : b.connect p m.link.world.1 with ⟨e | h, w⟩
    · have hrefused := connect_of_refused hc hp (by rw [hconnect])
      rw [outcome, final, connected_of_refused hrefused]
      refine ⟨⟨_, rfl⟩, ?_⟩
      simp [moved, Link.moved, Link.asked, Link.journal, Event.query?]
    · exact absurd (.owned hc hp hconnect) (hm h w)

/-- Work on a connection is begun in a manager that has it, and ends as it ends
there, unless closing fails. -/
theorem WorksOn.connected {α : Type} {m : Manager b.journaled} {h : b.Handle} {w : b.World}
    (hm : WorksOn m h w) {body : Step b.journaled α}
    (hbody : ∀ l, Keeps (Since m.converters h l) body) :
    ∃ begun, begun.link.handle = some h ∧ begun.link.world.1 = w ∧ begun.tables = m.tables ∧
      begun.conditionsTable = m.conditionsTable ∧ begun.link.asked = m.link.asked ∧
      (final (connected body) m).link.asked = (final body begun).link.asked ∧
      ∃ closed : Except Error Unit,
        outcome (connected body) m = settled (outcome body begun) closed ∧
        ∀ e, closed = .error e → ∃ w, (b.close h w).1 = .error e := by
  cases hm with
  | shared hh =>
    refine ⟨m, hh.handle, rfl, rfl, rfl, rfl, ?_, .ok (), ?_, ?_⟩
    · rw [final, connected_of_connected hh.isConnected, ← final]
    · rw [outcome, connected_of_connected hh.isConnected, ← outcome, settled_ok]
    · intro e he
      cases he
  | @owned p h w hc hp hconnect =>
    have hopened := connect_of_opened hc hp (by rw [hconnect])
    have hdone : Since m.converters h (opened m p h).link (final body (opened m p h)) :=
      hbody _ _ ⟨rfl, rfl, [], .refl h _⟩
    refine ⟨opened m p h, rfl, ?_, rfl, rfl, ?_, ?_⟩
    · simp only [opened, hconnect]
    · simp [opened, Link.asked, Link.journal, Event.query?]
    rw [outcome_connected hopened, final_connected hopened]
    cases hlost : b.isClosed h (final body (opened m p h)).link.world.1 with
    | true =>
      obtain ⟨houtcome, hfinal⟩ := forceDisconnect_of_lost hdone.handle hlost
      rw [houtcome, hfinal]
      refine ⟨rfl, .ok (), ?_, ?_⟩
      · rw [settled_ok, settled_ok]
      · intro e he
        cases he
    | false =>
      obtain ⟨houtcome, hfinal⟩ := forceDisconnect_of_holds ⟨hdone.handle, hlost⟩
      rw [houtcome, hfinal, settled_map]
      refine ⟨?_, _, rfl, fun e he => ⟨_, he⟩⟩
      simp [Link.asked, Link.journal, Event.query?]

/-- The answer to the question for an id leaves this id for new rows. -/
def Leaves (collection : Option Int) (answer : ResultSet) (id : Int) : Prop :=
  match collection with
  | none => answer.single? = some (.integer id) ∨ answer.single? = none ∧ id = 1
  | some given => id = given ∧ ∃ n : Int, n ≤ 0 ∧ answer.single? = some (.integer n)

theorem chooseId_eq_ok_iff {t : Table} {collection : Option Int} {answer : ResultSet} {id : Int}
    (hcount : collection.isSome → ∃ n, answer.single? = some (.integer n)) :
    chooseId t collection answer = .ok id ↔ Leaves collection answer id := by
  cases collection with
  | none =>
    simp only [chooseId, Leaves]
    cases answer.single? with
    | none => simp [eq_comm]
    | some value => cases value <;> simp [Value.integer?]
  | some given =>
    obtain ⟨n, hn⟩ := hcount rfl
    rw [chooseId_given_eq_ok_iff, Leaves]
    simp only [hn, Option.some.injEq, Value.integer.injEq, forall_eq']
    constructor
    · rintro ⟨hid, hfree⟩
      exact ⟨hid, n, hfree, rfl⟩
    · rintro ⟨hid, _, hfree, rfl⟩
      exact ⟨hid, hfree⟩

/-- Everything has been checked: the question for an id has been answered with a
free one, every row has a value for each column, and the connection is still
open to insert the rows. -/
structure Accepted (h : b.Handle) (w : b.World) (t : Table) (collection : Option Int)
    (data : DataFile) (id : Int) (w' : b.World) : Prop where
  isOpen : b.isClosed h w = false
  answered : ∃ answer, b.select h (idStatement t collection).text w = (.ok answer, w') ∧
    Leaves collection answer id
  rows : data.rows ≠ []
  widths : ∀ row ∈ data.rows, row.length = data.columns.length
  stillOpen : b.isClosed h w' = false

def rowsStatement (t : Table) (data : DataFile) (id : Int) : Sql.Statement :=
  .insertRows t.name t.key id data.columns data.rows

theorem insert_eq_ok_rowsStatement_iff {t : Table} {data : DataFile} {id : Int}
    (hcolumns : data.columns ≠ []) :
    Sql.Statement.insert t.name t.key id data.columns data.rows = .ok (rowsStatement t data id) ↔
      data.rows ≠ [] ∧ ∀ row ∈ data.rows, row.length = data.columns.length := by
  rw [Sql.Statement.insert_eq_ok_iff]
  simp [hcolumns, rowsStatement]

/-- What a load of a data file into a table sends and answers. -/
structure Validated (s : Surroundings) (a : LoadArguments) (m : Manager b.journaled) (t : Table)
    (data : DataFile) (texts : List Query) : Prop where
  asked : (final (load s a) m).link.asked = m.link.asked ++ texts
  /-- Without an open connection nothing is sent, and otherwise the question for
  an id, which one insert may follow. -/
  sent : (texts = [] ∧ ∀ h w, WorksOn m h w → b.isClosed h w = true) ∨
    texts = [.select (idStatement t a.collection).text] ∨
    ∃ id, texts = [.select (idStatement t a.collection).text,
      .update (rowsStatement t data id).text]
  /-- The insert is sent just if everything has been checked. -/
  insert_iff : ∀ sql, .update sql ∈ texts ↔ ∃ h w id w', WorksOn m h w ∧
    Accepted h w t a.collection data id w' ∧ sql = (rowsStatement t data id).text
  /-- An answer is the id that was free and the keys that the insert has given. -/
  inserted : ∀ o, outcome (load s a) m = .ok o → ∃ h w w' w'', WorksOn m h w ∧
    Accepted h w t a.collection data o.collection w' ∧
    .update (rowsStatement t data o.collection).text ∈ texts ∧
    b.update h (rowsStatement t data o.collection).text w' = (.ok o.rowIds, w'')
  /-- A fault of the configuration or of a resource means that nothing was inserted. -/
  refused : ∀ e, outcome (load s a) m = .error e →
    (∃ cause, e = .configuration cause) ∨ (∃ fault, e = .resource fault) →
    ∀ sql, .update sql ∉ texts

def CountsIntegers (m : Manager b.journaled) (a : LoadArguments) : Prop :=
  ∀ h w id answer w', WorksOn m h w → a.collection = some id →
    b.select h (Sql.Statement.countCollection a.table id).text w = (.ok answer, w') →
    ∃ n, answer.single? = some (.integer n)

section Ending

variable {h : b.Handle} {w : b.World} {t : Table} {collection : Option Int} {data : DataFile}
  {o : Except Error LoadOutcome} {texts : List Query} {w' : b.World}

theorem InsertionEnds.sent_cases (he : InsertionEnds h w t collection data o texts w') :
    (texts = [] ∧ b.isClosed h w = true) ∨ texts = [.select (idStatement t collection).text] ∨
      ∃ id, texts = [.select (idStatement t collection).text,
        .update (rowsStatement t data id).text] := by
  cases he with
  | lost hclosed => exact Or.inl ⟨rfl, hclosed⟩
  | idRefused => exact Or.inr (Or.inl rfl)
  | noId => exact Or.inr (Or.inl rfl)
  | invalid => exact Or.inr (Or.inl rfl)
  | lostSince => exact Or.inr (Or.inl rfl)
  | sent _ _ _ hrows =>
    obtain ⟨-, -, -, rfl⟩ := Sql.Statement.insert_eq_ok_iff.mp hrows
    exact Or.inr (Or.inr ⟨_, rfl⟩)

theorem InsertionEnds.sent_update (he : InsertionEnds h w t collection data o texts w')
    {sql : String} (hsql : .update sql ∈ texts) :
    ∃ answer id v keys, b.isClosed h w = false ∧
      b.select h (idStatement t collection).text w = (.ok answer, v) ∧
      chooseId t collection answer = .ok id ∧
      Sql.Statement.insert t.name t.key id data.columns data.rows = .ok (rowsStatement t data id) ∧
      b.isClosed h v = false ∧ b.update h (rowsStatement t data id).text v = (keys, w') ∧
      sql = (rowsStatement t data id).text ∧ o = keys.map fun ids => ⟨id, ids⟩ := by
  cases he with
  | lost => simp at hsql
  | idRefused => simp at hsql
  | noId => simp at hsql
  | invalid => simp at hsql
  | lostSince => simp at hsql
  | sent hopen hselect hid hrows hstill hupdate =>
    simp only [List.mem_cons, reduceCtorEq, Query.update.injEq, List.not_mem_nil, or_false,
      false_or] at hsql
    obtain ⟨-, -, -, rfl⟩ := Sql.Statement.insert_eq_ok_iff.mp hrows
    exact ⟨_, _, _, _, hopen, hselect, hid, hrows, hstill, hupdate, hsql, rfl⟩

theorem InsertionEnds.update_mem (he : InsertionEnds h w t collection data o texts w')
    {answer : ResultSet} {id : Int} {v : b.World} (hopen : b.isClosed h w = false)
    (hselect : b.select h (idStatement t collection).text w = (.ok answer, v))
    (hid : chooseId t collection answer = .ok id)
    (hrows : Sql.Statement.insert t.name t.key id data.columns data.rows =
      .ok (rowsStatement t data id))
    (hstill : b.isClosed h v = false) : .update (rowsStatement t data id).text ∈ texts := by
  cases he with
  | lost hclosed => simp [hopen] at hclosed
  | idRefused _ hselect' => simp [hselect] at hselect'
  | noId _ hselect' hid' =>
    simp only [hselect, Prod.mk.injEq, Except.ok.injEq] at hselect'
    obtain ⟨rfl, rfl⟩ := hselect'
    simp [hid] at hid'
  | invalid _ hselect' hid' hrows' =>
    simp only [hselect, Prod.mk.injEq, Except.ok.injEq] at hselect'
    obtain ⟨rfl, rfl⟩ := hselect'
    obtain rfl := Except.ok.inj (hid.symm.trans hid')
    simp [hrows] at hrows'
  | lostSince _ hselect' hid' hrows' hclosed =>
    simp only [hselect, Prod.mk.injEq, Except.ok.injEq] at hselect'
    obtain ⟨rfl, rfl⟩ := hselect'
    simp [hstill] at hclosed
  | sent _ hselect' hid' hrows' =>
    simp only [hselect, Prod.mk.injEq, Except.ok.injEq] at hselect'
    obtain ⟨rfl, rfl⟩ := hselect'
    obtain rfl := Except.ok.inj (hid.symm.trans hid')
    obtain rfl := Except.ok.inj (hrows.symm.trans hrows')
    simp

theorem InsertionEnds.update_of_ok (he : InsertionEnds h w t collection data o texts w')
    {found : LoadOutcome} (ho : o = .ok found) : ∃ sql, .update sql ∈ texts := by
  cases he with
  | sent => exact ⟨_, List.mem_cons_of_mem _ List.mem_cons_self⟩
  | _ => cases ho

theorem accepted_iff {id : Int} {v : b.World} (hcolumns : data.columns ≠ [])
    (hcount : ∀ answer v, b.select h (idStatement t collection).text w = (.ok answer, v) →
      collection.isSome → ∃ n, answer.single? = some (.integer n)) :
    Accepted h w t collection data id v ↔ ∃ answer, b.isClosed h w = false ∧
      b.select h (idStatement t collection).text w = (.ok answer, v) ∧
      chooseId t collection answer = .ok id ∧
      Sql.Statement.insert t.name t.key id data.columns data.rows = .ok (rowsStatement t data id) ∧
      b.isClosed h v = false := by
  constructor
  · rintro ⟨hopen, ⟨answer, hselect, hleaves⟩, hrows, hwidths, hstill⟩
    have hid := (chooseId_eq_ok_iff (t := t) (hcount answer v hselect)).mpr hleaves
    exact ⟨answer, hopen, hselect, hid,
      (insert_eq_ok_rowsStatement_iff hcolumns).mpr ⟨hrows, hwidths⟩, hstill⟩
  · rintro ⟨answer, hopen, hselect, hid, hinsert, hstill⟩
    have hleaves := (chooseId_eq_ok_iff (hcount answer v hselect)).mp hid
    obtain ⟨hrows, hwidths⟩ := (insert_eq_ok_rowsStatement_iff hcolumns).mp hinsert
    exact ⟨hopen, ⟨answer, hselect, hleaves⟩, hrows, hwidths, hstill⟩

/-- An insert is sent just if everything has been checked. -/
theorem InsertionEnds.mem_update_iff (he : InsertionEnds h w t collection data o texts w')
    (hcolumns : data.columns ≠ [])
    (hcount : ∀ answer v, b.select h (idStatement t collection).text w = (.ok answer, v) →
      collection.isSome → ∃ n, answer.single? = some (.integer n)) (sql : String) :
    .update sql ∈ texts ↔ ∃ id v, Accepted h w t collection data id v ∧
      sql = (rowsStatement t data id).text := by
  constructor
  · intro hsql
    obtain ⟨answer, id, v, keys, hopen, hselect, hid, hinsert, hstill, -, rfl, -⟩ :=
      he.sent_update hsql
    exact ⟨id, v,
      (accepted_iff hcolumns hcount).mpr ⟨answer, hopen, hselect, hid, hinsert, hstill⟩, rfl⟩
  · rintro ⟨id, v, haccepted, rfl⟩
    obtain ⟨answer, hopen, hselect, hid, hinsert, hstill⟩ :=
      (accepted_iff hcolumns hcount).mp haccepted
    exact he.update_mem hopen hselect hid hinsert hstill

theorem InsertionEnds.inserted {found : LoadOutcome}
    (he : InsertionEnds h w t collection data (.ok found) texts w') (hcolumns : data.columns ≠ [])
    (hcount : ∀ answer v, b.select h (idStatement t collection).text w = (.ok answer, v) →
      collection.isSome → ∃ n, answer.single? = some (.integer n)) :
    ∃ v, Accepted h w t collection data found.collection v ∧
      .update (rowsStatement t data found.collection).text ∈ texts ∧
      b.update h (rowsStatement t data found.collection).text v = (.ok found.rowIds, w') := by
  obtain ⟨sql, hsql⟩ := he.update_of_ok rfl
  obtain ⟨answer, id, v, keys, hopen, hselect, hid, hinsert, hstill, hupdate, rfl, hkeys⟩ :=
    he.sent_update hsql
  have haccepted :=
    (accepted_iff hcolumns hcount).mpr ⟨answer, hopen, hselect, hid, hinsert, hstill⟩
  cases keys with
  | error e => cases hkeys
  | ok ids =>
    obtain rfl := Except.ok.inj hkeys
    exact ⟨v, haccepted, hsql, hupdate⟩

theorem InsertionEnds.fault_of_update {e : Error} (hfaults : b.OwnFaults)
    (he : InsertionEnds h w t collection data (.error e) texts w') {sql : String}
    (hsql : .update sql ∈ texts) :
    (∃ text fault, e = .query text fault) ∨ ∃ target fault, e = .connection target fault := by
  obtain ⟨answer, id, v, keys, -, -, -, -, -, hupdate, -, hkeys⟩ := he.sent_update hsql
  cases keys with
  | error e' =>
    obtain rfl := Except.error.inj hkeys
    exact hfaults.update h _ v e (by rw [hupdate])
  | ok ids => cases hkeys

end Ending

section Prepared

variable {m : Manager b.journaled} {a : LoadArguments} {s : Surroundings} {t : Table}
  {data : DataFile}

theorem load_of_prepared (ht : m.tables.find? a.table = some t)
    (hdata : DataFile.read s.files a.file = .ok data) :
    load s a m = connected (insertCollection t a.collection data) m := by
  rw [load_apply, loadWork, ht, hdata]
  rfl

theorem load_ends {h : b.Handle} {w : b.World} (hm : WorksOn m h w)
    (ht : m.tables.find? a.table = some t) (hdata : DataFile.read s.files a.file = .ok data) :
    ∃ o texts w', InsertionEnds h w t a.collection data o texts w' ∧
      (final (load s a) m).link.asked = m.link.asked ++ texts ∧
      ∃ closed : Except Error Unit, outcome (load s a) m = settled o closed ∧
        ∀ e, closed = .error e → ∃ u, (b.close h u).1 = .error e := by
  have hname : t.name = a.table := Tables.name_of_find? ht
  have hload := load_of_prepared ht hdata
  obtain ⟨begun, hh, hworld, htables, -, hasked, hfinal, closed, houtcome, hclosed⟩ :=
    hm.connected fun _ => insertCollection_since t a.collection data
  have ht' : begun.tables.find? t.name = some t := by
    rw [htables, hname, ht]
  obtain ⟨o, texts, w', he, ho, hdone⟩ := insertCollection_ends hh ht' a.collection data
  obtain ⟨hends, hjournal⟩ := he.unjournaled
  rw [hworld] at hends
  rw [ho] at houtcome
  have hlink : (begun.moved w').link =
      begun.link.moved (w'.1, begun.link.journal ++ texts.map (.query h · true)) := by
    rw [Link.journal, ← hjournal]
    rfl
  refine ⟨o, texts, w'.1, hends, ?_, closed, ?_, hclosed⟩
  · rw [final, hload, ← final, hfinal, hdone, ← hasked, hlink, Link.asked_append]
  · rw [outcome, hload, ← outcome, houtcome]

theorem validated_of_no_connection (hm : ∀ h w, ¬ WorksOn m h w)
    (hload : load s a m = connected (insertCollection t a.collection data) m) :
    Validated s a m t data [] := by
  obtain ⟨⟨e, he⟩, hasked⟩ := connected_of_no_connection hm (insertCollection t a.collection data)
  constructor
  · rw [final, hload, ← final, hasked, List.append_nil]
  · exact Or.inl ⟨rfl, fun h w hw => absurd hw (hm h w)⟩
  · intro sql
    simp only [List.not_mem_nil, false_iff]
    rintro ⟨h, w, id, w', hw, -⟩
    exact hm h w hw
  · intro found hfound
    rw [outcome, hload, ← outcome, he] at hfound
    cases hfound
  · intro e' _ _ sql hsql
    cases hsql

theorem load_validated (hfaults : b.OwnFaults) (hcount : CountsIntegers m a)
    (ht : m.tables.find? a.table = some t) (hdata : DataFile.read s.files a.file = .ok data) :
    ∃ texts, Validated s a m t data texts := by
  have hname : t.name = a.table := Tables.name_of_find? ht
  have hcolumns := DataFile.columns_ne_nil hdata
  by_cases hworks : ∃ h w, WorksOn m h w
  · obtain ⟨h, w, hm⟩ := hworks
    obtain ⟨o, texts, w', hends, hasked, closed, houtcome, hclosed⟩ := load_ends hm ht hdata
    have hcount' : ∀ answer v, b.select h (idStatement t a.collection).text w = (.ok answer, v) →
        a.collection.isSome → ∃ n, answer.single? = some (.integer n) := by
      intro answer v hselect hsome
      obtain ⟨id, hid⟩ := Option.isSome_iff_exists.mp hsome
      rw [hid, idStatement, hname] at hselect
      exact hcount h w id answer v hm hid hselect
    refine ⟨texts, hasked, ?_, ?_, ?_, ?_⟩
    · rcases hends.sent_cases with ⟨hnone, hlost⟩ | hsent
      · refine Or.inl ⟨hnone, fun h' v hv => ?_⟩
        obtain ⟨rfl, rfl⟩ := hm.unique hv
        exact hlost
      · exact Or.inr hsent
    · intro sql
      rw [hends.mem_update_iff hcolumns hcount']
      constructor
      · rintro ⟨id, v, haccepted, hsql⟩
        exact ⟨h, w, id, v, hm, haccepted, hsql⟩
      · rintro ⟨h', v, id, v', hv, haccepted, hsql⟩
        obtain ⟨rfl, rfl⟩ := hm.unique hv
        exact ⟨id, v', haccepted, hsql⟩
    · intro found hfound
      obtain rfl := settled_eq_ok (houtcome.symm.trans hfound)
      obtain ⟨v, haccepted, hsql, hupdate⟩ := hends.inserted hcolumns hcount'
      exact ⟨h, w, v, w', hm, haccepted, hsql, hupdate⟩
    · intro e herror hcause sql hsql
      have hfault : (∃ text fault, e = .query text fault) ∨
          ∃ target fault, e = .connection target fault := by
        rw [houtcome] at herror
        rcases settled_eq_error herror with rfl | hclose
        · exact hends.fault_of_update hfaults hsql
        · obtain ⟨u, hu⟩ := hclosed e hclose
          exact hfaults.close h u e hu
      rcases hfault with ⟨text, fault, rfl⟩ | ⟨target, fault, rfl⟩
      · simp at hcause
      · simp at hcause
  · have hnone : ∀ h w, ¬ WorksOn m h w := fun h w hm => hworks ⟨h, w, hm⟩
    exact ⟨[], validated_of_no_connection hnone (load_of_prepared ht hdata)⟩

end Prepared

/-- A load fails at once if its table is not configured or its file cannot be
read, and otherwise it is validated before it inserts. -/
theorem load_validates (hfaults : b.OwnFaults) {m : Manager b.journaled} {a : LoadArguments}
    (hcount : CountsIntegers m a) (s : Surroundings) :
    (m.tables.find? a.table = none →
      load s a m = .error (.configuration (.unknownTable a.table)) m) ∧
    (∀ t e, m.tables.find? a.table = some t → DataFile.read s.files a.file = .error e →
      load s a m = .error e m) ∧
    ∀ t data, m.tables.find? a.table = some t → DataFile.read s.files a.file = .ok data →
      ∃ texts, Validated s a m t data texts := by
  refine ⟨fun hnone => ?_, fun t e ht hread => ?_, fun t data => load_validated hfaults hcount⟩
  · rw [load_apply, loadWork, hnone]
  · rw [load_apply, loadWork, ht, hread]
    rfl

end CommandLine

namespace Script
open CommandLine

theorem ownFaults : backend.OwnFaults where
  update _ sql s e he := by
    change (State.update sql s).1 = .error e at he
    simp only [State.update] at he
    split at he
    · cases he
      exact Or.inl ⟨_, _, rfl⟩
    · cases he
  close _ s e he := by
    change (State.close s).1 = .error e at he
    simp only [State.close] at he
    split at he
    · cases he
      exact Or.inr ⟨_, _, rfl⟩
    · cases he

theorem selects_of_worksOn {m : Manager backend.journaled} {h : backend.Handle} {s : State}
    (hm : WorksOn m h s) : s.selects = m.link.world.1.selects := by
  cases hm with
  | shared => rfl
  | @owned p _ _ _ _ hconnect =>
    change State.connect p m.link.world.1 = (.ok h, s) at hconnect
    simp only [State.connect] at hconnect
    split at hconnect
    · cases hconnect
    · cases hconnect
      rfl

def countFive : String := "SELECT COUNT(*) FROM bad_channels WHERE collection_id = 5"

def insertFive : String :=
  "INSERT INTO bad_channels (collection_id, ecal_channel_id) VALUES (5, '11') RETURNING id"

def fiveFree : State where
  selects := [(countFive, ⟨["count"], [[some (.integer 0)]]⟩)]
  updates := [(insertFive, [40])]

def fiveManager : Manager backend.journaled :=
  Manager.afterwards Manager.getConditions
    [.configure overlappingConfig,
     .setParameters ⟨"t1", "x", "hps_conditions_test", "localhost", 5432, "mock"⟩]
    (Manager.new .standard (.base Files.none []) (fiveFree, []))

def loadFive : LoadArguments :=
  { channelsLoad with collection := some 5 }

theorem fiveManager_counts : CountsIntegers fiveManager loadFive := by
  intro h s id answer s' hm hid hselect
  obtain rfl : 5 = id := Option.some.inj hid
  have hselects : s.selects = fiveFree.selects := selects_of_worksOn hm
  change State.select countFive s = (.ok answer, s') at hselect
  simp only [State.select, hselects] at hselect
  split at hselect
  · cases hselect
  · obtain ⟨hanswer, -⟩ := Prod.mk.inj hselect
    have hrows : Except.ok (ε := Error) ⟨["count"], [[some (.integer 0)]]⟩ = .ok answer := hanswer
    obtain rfl := Except.ok.inj hrows
    exact ⟨0, rfl⟩

theorem fiveManager_validates :
    (outcome (load oneChannel loadFive) fiveManager).toOption = some ⟨5, [40]⟩ ∧
      (final (load oneChannel loadFive) fiveManager).link.asked =
        [.select countFive, .update insertFive] ∧
      CountsIntegers fiveManager loadFive ∧
      ∀ t data, fiveManager.tables.find? "bad_channels" = some t →
        DataFile.read oneChannel.files "channels.txt" = .ok data →
        ∃ texts, Validated oneChannel loadFive fiveManager t data texts :=
  ⟨by decide +kernel, rfl, fiveManager_counts,
    (load_validates ownFaults fiveManager_counts oneChannel).2.2⟩

end Script
end RunConditions
