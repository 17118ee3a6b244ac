import RunConditions.Proofs.Closing

/-!
# How an insertion of a collection ends

New rows are inserted in two queries: the first one asks for a free collection
id, and the second one is sent only if there is such an id and the rows are
valid. All ways in which this can end are listed, each with its answer, the
queries that have been sent by then, and the database side that is left.
-/

set_option autoImplicit false

namespace RunConditions

namespace Sql.Statement

theorem raggedRow?_eq_none_iff {columns n : Nat} {rows : List (List String)} :
    raggedRow? columns n rows = none ↔ ∀ row ∈ rows, row.length = columns := by
  induction rows generalizing n with
  | nil => simp [raggedRow?]
  | cons row rest ih =>
    by_cases hrow : row.length = columns
    · simp only [raggedRow?, hrow, if_true, ih, List.forall_mem_cons, true_and]
    · simp [raggedRow?, hrow]

theorem insert_eq_ok_iff {table key : String} {collection : Int} {columns : List String}
    {rows : List (List String)} {statement : Statement} :
    insert table key collection columns rows = .ok statement ↔
      columns ≠ [] ∧ rows ≠ [] ∧ (∀ row ∈ rows, row.length = columns.length) ∧
        statement = .insertRows table key collection columns rows := by
  by_cases hcolumns : columns = []
  · simp [insert, hcolumns]
  by_cases hrows : rows = []
  · simp [insert, hcolumns, hrows]
  rw [← raggedRow?_eq_none_iff (n := 1)]
  simp only [insert, List.isEmpty_iff, hcolumns, hrows, if_false]
  cases raggedRow? columns.length 1 rows with
  | none => simp [hcolumns, hrows, eq_comm]
  | some ragged => simp

end Sql.Statement

theorem DataFile.columns_ne_nil {files : Files} {path : String} {data : DataFile}
    (h : DataFile.read files path = .ok data) : data.columns ≠ [] := by
  rw [DataFile.read] at h
  cases hfile : files.read path (.noInputFile path) with
  | error e =>
    rw [hfile] at h
    cases h
  | ok text =>
    simp only [hfile, bind, Except.bind] at h
    cases hdata : DataFile.ofText? text with
    | none =>
      rw [hdata] at h
      cases h
    | some found =>
      rw [hdata] at h
      obtain rfl := Except.ok.inj h
      rw [DataFile.ofText?] at hdata
      split at hdata
      · cases hdata
      · split at hdata
        · cases hdata
        · rename_i hnames
          obtain rfl := Option.some.inj hdata
          simpa using hnames

namespace CommandLine
open Manager

variable {b : Backend}

/-- The question for a free collection id, or whether the given one is free. -/
def idStatement (t : Table) : Option Int → Sql.Statement
  | none => .nextCollection t.name
  | some id => .countCollection t.name id

/-- The id that an answer leaves for new rows. -/
def chooseId (t : Table) (collection : Option Int) (answer : ResultSet) : Except Error Int :=
  match collection with
  | none =>
    match answer.single? with
    | none => .ok 1
    | some value =>
      match value.integer? with
      | some n => .ok n
      | none => .error (.query (Sql.Statement.nextCollection t.name).text (.badCollectionId value))
  | some id =>
    if 0 < (answer.single?.bind Value.integer?).getD 0 then
      .error (.configuration (.usedCollection id t.name))
    else .ok id

section Choosing

variable {t : Table} {answer : ResultSet}

theorem count_pos_iff :
    0 < (answer.single?.bind Value.integer?).getD 0 ↔
      ∃ n : Int, answer.single? = some (.integer n) ∧ 0 < n := by
  cases hvalue : answer.single? with
  | none => simp
  | some value => cases value <;> simp [Value.integer?]

theorem chooseId_given_eq_ok_iff {given id : Int} :
    chooseId t (some given) answer = .ok id ↔
      id = given ∧ ∀ n, answer.single? = some (.integer n) → n ≤ 0 := by
  rw [chooseId]
  by_cases hused : 0 < (answer.single?.bind Value.integer?).getD 0
  · obtain ⟨n, hn, hpos⟩ := count_pos_iff.mp hused
    simp only [if_pos hused, reduceCtorEq, false_iff, not_and]
    intro _ hnone
    exact absurd (hnone n hn) (Int.not_le.mpr hpos)
  · have hnone : ∀ n, answer.single? = some (.integer n) → n ≤ 0 := by
      intro n hn
      exact Int.not_lt.mp fun hpos => hused (count_pos_iff.mpr ⟨n, hn, hpos⟩)
    simp only [if_neg hused, Except.ok.injEq]
    exact ⟨fun hid => ⟨hid.symm, hnone⟩, fun hid => hid.1.symm⟩

theorem chooseId_given_of_pos {given n : Int} (hn : answer.single? = some (.integer n))
    (hpos : 0 < n) :
    chooseId t (some given) answer = .error (.configuration (.usedCollection given t.name)) := by
  rw [chooseId, if_pos (count_pos_iff.mpr ⟨n, hn, hpos⟩)]

theorem chooseId_next_of_no_integer {value : Value} (hvalue : answer.single? = some value)
    (hinteger : ∀ n, value ≠ .integer n) :
    chooseId t none answer =
      .error (.query (Sql.Statement.nextCollection t.name).text (.badCollectionId value)) := by
  simp only [chooseId, hvalue]
  cases value with
  | integer n => exact absurd rfl (hinteger n)
  | _ => rfl

end Choosing

theorem freeCollection_apply {m : Manager b} {t : Table} (ht : m.tables.find? t.name = some t)
    (collection : Option Int) :
    freeCollection t collection m =
      (select (idStatement t collection).text >>= fun answer =>
        conclude (chooseId t collection answer)) m := by
  cases collection with
  | none =>
    simp only [freeCollection, nextCollectionId, requireTable, bind_apply, get_apply, ht,
      pure_apply, idStatement, chooseId]
    cases select (Sql.Statement.nextCollection t.name).text m with
    | error e m' => rfl
    | ok answer m' =>
      dsimp only
      cases answer.single? with
      | none => rfl
      | some value =>
        dsimp only
        cases value.integer? <;> rfl
  | some id =>
    simp only [freeCollection, collectionExists, requireTable, bind_apply, get_apply, ht,
      pure_apply, idStatement, chooseId]
    cases select (Sql.Statement.countCollection t.name id).text m with
    | error e m' => rfl
    | ok answer m' =>
      dsimp only
      split
      · rename_i hused
        rw [decide_eq_true_eq] at hused
        rw [if_pos hused]
        rfl
      · rename_i hfree
        rw [decide_eq_true_eq] at hfree
        rw [if_neg hfree]
        rfl

/-- How the insertion of rows over a connection ends, what it has sent by then,
and what the database side is left as. -/
inductive InsertionEnds (h : b.Handle) (w : b.World) (t : Table) (collection : Option Int)
    (data : DataFile) : Except Error LoadOutcome → List Query → b.World → Prop where
  | lost (hclosed : b.isClosed h w = true) :
      InsertionEnds h w t collection data
        (.error (.query (idStatement t collection).text .notOpen)) [] w
  | idRefused {e : Error} {w' : b.World} (hopen : b.isClosed h w = false)
      (hselect : b.select h (idStatement t collection).text w = (.error e, w')) :
      InsertionEnds h w t collection data (.error e)
        [.select (idStatement t collection).text] w'
  | noId {answer : ResultSet} {e : Error} {w' : b.World} (hopen : b.isClosed h w = false)
      (hselect : b.select h (idStatement t collection).text w = (.ok answer, w'))
      (hid : chooseId t collection answer = .error e) :
      InsertionEnds h w t collection data (.error e)
        [.select (idStatement t collection).text] w'
  | invalid {answer : ResultSet} {id : Int} {e : Error} {w' : b.World}
      (hopen : b.isClosed h w = false)
      (hselect : b.select h (idStatement t collection).text w = (.ok answer, w'))
      (hid : chooseId t collection answer = .ok id)
      (hrows : Sql.Statement.insert t.name t.key id data.columns data.rows = .error e) :
      InsertionEnds h w t collection data (.error e)
        [.select (idStatement t collection).text] w'
  | lostSince {answer : ResultSet} {id : Int} {statement : Sql.Statement} {w' : b.World}
      (hopen : b.isClosed h w = false)
      (hselect : b.select h (idStatement t collection).text w = (.ok answer, w'))
      (hid : chooseId t collection answer = .ok id)
      (hrows : Sql.Statement.insert t.name t.key id data.columns data.rows = .ok statement)
      (hclosed : b.isClosed h w' = true) :
      InsertionEnds h w t collection data (.error (.query statement.text .notOpen))
        [.select (idStatement t collection).text] w'
  | sent {answer : ResultSet} {id : Int} {statement : Sql.Statement} {w' w'' : b.World}
      {keys : Except Error (List Int)} (hopen : b.isClosed h w = false)
      (hselect : b.select h (idStatement t collection).text w = (.ok answer, w'))
      (hid : chooseId t collection answer = .ok id)
      (hrows : Sql.Statement.insert t.name t.key id data.columns data.rows = .ok statement)
      (hstill : b.isClosed h w' = false)
      (hupdate : b.update h statement.text w' = (keys, w'')) :
      InsertionEnds h w t collection data (keys.map fun ids => ⟨id, ids⟩)
        [.select (idStatement t collection).text, .update statement.text] w''

theorem insertCollection_ends {m : Manager b} {h : b.Handle} {t : Table}
    (hh : m.link.handle = some h) (ht : m.tables.find? t.name = some t)
    (collection : Option Int) (data : DataFile) :
    ∃ o texts w, InsertionEnds h m.link.world t collection data o texts w ∧
      outcome (insertCollection t collection data) m = o ∧
      final (insertCollection t collection data) m = m.moved w := by
  simp only [outcome, final, insertCollection, bind_apply, freeCollection_apply ht]
  cases hopen : b.isClosed h m.link.world with
  | true =>
    rw [select_apply_of_not_connected (Link.isConnected_of_closed hh hopen)]
    exact ⟨_, _, _, .lost hopen, rfl, rfl⟩
  | false =>
    rw [select_apply hh hopen]
    rcases hselect : b.select h (idStatement t collection).text m.link.world with ⟨e | answer, w⟩
    · exact ⟨_, _, _, .idRefused hopen hselect, rfl, rfl⟩
    dsimp only
    cases hid : chooseId t collection answer with
    | error e => exact ⟨_, _, _, .noId hopen hselect hid, rfl, rfl⟩
    | ok id =>
      dsimp only [conclude_ok, pure_apply]
      cases hrows : Sql.Statement.insert t.name t.key id data.columns data.rows with
      | error e => exact ⟨_, _, _, .invalid hopen hselect hid hrows, rfl, rfl⟩
      | ok statement =>
        dsimp only [conclude_ok, pure_apply]
        have hh' : (m.moved w).link.handle = some h := hh
        cases hstill : b.isClosed h w with
        | true =>
          have hlost : (m.moved w).isConnected = false :=
            Link.isConnected_of_closed hh' hstill
          rw [update, onLink, Link.update, Link.use_eq_error hlost]
          exact ⟨_, _, _, .lostSince hopen hselect hid hrows hstill, rfl, rfl⟩
        | false =>
          have hworld : (m.moved w).link.world = w := rfl
          rw [update_apply hh' hstill, hworld]
          rcases hupdate : b.update h statement.text w with ⟨e | keys, w'⟩
          · exact ⟨_, _, _, .sent hopen hselect hid hrows hstill hupdate, rfl, rfl⟩
          · exact ⟨_, _, _, .sent hopen hselect hid hrows hstill hupdate, rfl, rfl⟩

end CommandLine
end RunConditions
