import RunConditions.Proofs.ColumnNames

/-!
# Collection ids that are given

A load with a given collection id asks how many rows have it. Only a positive
integer stops the load. Any other answer counts as none, also one that is no
number at all, and the rows are inserted under the id. A load that asks for the
next id is more careful: it refuses a value that is no integer.
-/

set_option autoImplicit false

namespace RunConditions.CommandLine
open Manager

variable {b : Backend}

def AnswersId (m : Manager b.journaled) (t : Table) (collection : Option Int)
    (answer : ResultSet) (h : b.Handle) (v : b.World) : Prop :=
  ∃ w, WorksOn m h w ∧ b.isClosed h w = false ∧
    b.select h (idStatement t collection).text w = (.ok answer, v)

/-- Where no id is left nothing more is sent. -/
theorem InsertionEnds.of_no_id {h : b.Handle} {w v w' : b.World} {t : Table}
    {collection : Option Int} {data : DataFile} {o : Except Error LoadOutcome}
    {texts : List Query} (he : InsertionEnds h w t collection data o texts w')
    {answer : ResultSet} {e : Error} (hopen : b.isClosed h w = false)
    (hselect : b.select h (idStatement t collection).text w = (.ok answer, v))
    (hid : chooseId t collection answer = .error e) :
    o = .error e ∧ texts = [.select (idStatement t collection).text] := by
  have hsame : ∀ {answer' : ResultSet} {v' : b.World},
      b.select h (idStatement t collection).text w = (.ok answer', v') → answer' = answer := by
    intro answer' v' hselect'
    rw [hselect] at hselect'
    exact (Except.ok.inj (Prod.mk.inj hselect').1).symm
  cases he with
  | lost hclosed => simp [hopen] at hclosed
  | idRefused _ hselect' => simp [hselect] at hselect'
  | noId _ hselect' hid' =>
    obtain rfl := hsame hselect'
    obtain rfl := Except.error.inj (hid'.symm.trans hid)
    exact ⟨rfl, rfl⟩
  | invalid _ hselect' hid' =>
    obtain rfl := hsame hselect'
    simp [hid] at hid'
  | lostSince _ hselect' hid' =>
    obtain rfl := hsame hselect'
    simp [hid] at hid'
  | sent _ hselect' hid' =>
    obtain rfl := hsame hselect'
    simp [hid] at hid'

/-- Nothing stands against inserting rows under a given id: there are rows of the right width,
and the question for the id has been answered with anything but a positive integer, over a
connection that is still open. -/
structure Unopposed (m : Manager b.journaled) (t : Table) (data : DataFile) (id : Int) :
    Prop where
  rows : data.rows ≠ []
  widths : ∀ row ∈ data.rows, row.length = data.columns.length
  answered : ∃ answer h v, AnswersId m t (some id) answer h v ∧ b.isClosed h v = false ∧
    ∀ n, answer.single? = some (.integer n) → n ≤ 0

section Prepared

variable {s : Surroundings} {m : Manager b.journaled} {t : Table} {data : DataFile}

theorem load_of_no_id {a : LoadArguments} (ht : m.tables.find? a.table = some t)
    (hdata : DataFile.read s.files a.file = .ok data) {answer : ResultSet} {h : b.Handle}
    {v : b.World} (hanswer : AnswersId m t a.collection answer h v) {e : Error}
    (hid : chooseId t a.collection answer = .error e) :
    outcome (load s a) m = .error e ∧
      (final (load s a) m).link.asked =
        m.link.asked ++ [.select (idStatement t a.collection).text] := by
  obtain ⟨w, hm, hopen, hselect⟩ := hanswer
  obtain ⟨o, texts, w', hends, hasked, closed, houtcome, -⟩ := load_ends hm ht hdata
  obtain ⟨rfl, rfl⟩ := hends.of_no_id hopen hselect hid
  exact ⟨houtcome, hasked⟩

theorem load_given_update_iff {table file : String} (id : Int)
    (ht : m.tables.find? table = some t) (hdata : DataFile.read s.files file = .ok data) :
    ∃ texts, (final (load s ⟨table, file, some id⟩) m).link.asked = m.link.asked ++ texts ∧
      (∀ found, outcome (load s ⟨table, file, some id⟩) m = .ok found →
        ∃ sql, .update sql ∈ texts) ∧
      ∀ sql, .update sql ∈ texts ↔
        Unopposed m t data id ∧ sql = (rowsStatement t data id).text := by
  obtain ⟨texts, hasked, hdone, hiff⟩ := load_update_iff (a := ⟨table, file, some id⟩) ht hdata
  refine ⟨texts, hasked, hdone, fun sql => (hiff sql).trans ⟨?_, ?_⟩⟩
  · rintro ⟨h, w, answer, id', v, hm, hopen, hselect, hid, hstill, ⟨hrows, hwidths⟩, hsql⟩
    obtain ⟨rfl, hfree⟩ := chooseId_given_eq_ok_iff.mp hid
    have hanswer : AnswersId m t (some id') answer h v := ⟨w, hm, hopen, hselect⟩
    exact ⟨⟨hrows, hwidths, answer, h, v, hanswer, hstill, hfree⟩, hsql⟩
  · rintro ⟨⟨hrows, hwidths, answer, h, v, ⟨w, hm, hopen, hselect⟩, hstill, hfree⟩, hsql⟩
    have hid : chooseId t (some id) answer = .ok id := chooseId_given_eq_ok_iff.mpr ⟨rfl, hfree⟩
    exact ⟨h, w, answer, id, v, hm, hopen, hselect, hid, hstill, ⟨hrows, hwidths⟩, hsql⟩

end Prepared

/-- A load with a given id sends its insert just if the answer to the question for the id is
no positive integer, whatever else it is, and everything else is in order. A positive integer
stops it. The next id, in contrast, has to be an integer. -/
theorem load_reads_count (s : Surroundings) (table file : String) (id : Int)
    (m : Manager b.journaled) :
    (∃ texts, (final (load s ⟨table, file, some id⟩) m).link.asked = m.link.asked ++ texts ∧
      (∀ found, outcome (load s ⟨table, file, some id⟩) m = .ok found →
        ∃ sql, .update sql ∈ texts) ∧
      ∀ sql, .update sql ∈ texts ↔ ∃ t data, m.tables.find? table = some t ∧
        DataFile.read s.files file = .ok data ∧ Unopposed m t data id ∧
        sql = (rowsStatement t data id).text) ∧
    ∀ t data, m.tables.find? table = some t → DataFile.read s.files file = .ok data →
      (∀ answer h v n, AnswersId m t (some id) answer h v →
        answer.single? = some (.integer n) → 0 < n →
        outcome (load s ⟨table, file, some id⟩) m =
            .error (.configuration (.usedCollection id t.name)) ∧
          (final (load s ⟨table, file, some id⟩) m).link.asked =
            m.link.asked ++ [.select (Sql.Statement.countCollection t.name id).text]) ∧
      ∀ answer h v value, AnswersId m t none answer h v → answer.single? = some value →
        (∀ n, value ≠ .integer n) →
        outcome (load s ⟨table, file, none⟩) m =
            .error (.query (Sql.Statement.nextCollection t.name).text (.badCollectionId value)) ∧
          (final (load s ⟨table, file, none⟩) m).link.asked =
            m.link.asked ++ [.select (Sql.Statement.nextCollection t.name).text] := by
  refine ⟨?_, fun t data ht hdata => ⟨?_, ?_⟩⟩
  · cases hwork : loadWork s ⟨table, file, some id⟩ m with
    | error e =>
      refine ⟨[], ?_, ?_, ?_⟩
      · rw [load_unprepared hwork, List.append_nil]
      · intro found hfound
        rw [outcome, load_apply, hwork] at hfound
        cases hfound
      · intro sql
        simp only [List.not_mem_nil, false_iff]
        rintro ⟨t, data, ht, hdata, -⟩
        rw [loadWork, ht, hdata] at hwork
        cases hwork
    | ok body =>
      obtain ⟨t, data, ht, hdata, -⟩ := loadWork_eq_ok hwork
      obtain ⟨texts, hasked, hdone, hiff⟩ := load_given_update_iff id ht hdata
      refine ⟨texts, hasked, hdone, fun sql => (hiff sql).trans ⟨?_, ?_⟩⟩
      · rintro ⟨hfree, hsql⟩
        exact ⟨t, data, ht, hdata, hfree, hsql⟩
      · rintro ⟨t', data', ht', hdata', hfree, hsql⟩
        obtain rfl := Option.some.inj (ht.symm.trans ht')
        obtain rfl := Except.ok.inj (hdata.symm.trans hdata')
        exact ⟨hfree, hsql⟩
  · intro answer h v n hanswer hn hpos
    exact load_of_no_id ht hdata hanswer (chooseId_given_of_pos hn hpos)
  · intro answer h v value hanswer hvalue hinteger
    exact load_of_no_id ht hdata hanswer (chooseId_next_of_no_integer hvalue hinteger)

end RunConditions.CommandLine

namespace RunConditions.Script
open CommandLine

def textAnswer : State where
  selects := [(countFive, ⟨["count"], [[some (.text "4")]]⟩),
    ("SELECT MAX(collection_id)+1 FROM bad_channels", ⟨["id"], [[some (.text "4")]]⟩)]
  updates := [(insertFive, [40])]

def textManager : Manager backend.journaled :=
  Manager.afterwards Manager.getConditions
    [.configure overlappingConfig,
     .setParameters ⟨"t1", "x", "hps_conditions_test", "localhost", 5432, "mock"⟩]
    (Manager.new .standard (.base Files.none []) (textAnswer, []))

/-- A count that cannot be read is taken for none, and the row is inserted under the given id.
The same answer is refused where the next id is asked for. -/
theorem unreadable_count_inserted :
    (outcome (load oneChannel loadFive) textManager).toOption = some ⟨5, [40]⟩ ∧
      (final (load oneChannel loadFive) textManager).link.asked =
        [.select countFive, .update insertFive] ∧
      outcome (load oneChannel channelsLoad) textManager =
        .error (.query "SELECT MAX(collection_id)+1 FROM bad_channels"
          (.badCollectionId (.text "4"))) ∧
      (final (load oneChannel channelsLoad) textManager).link.asked =
        [.select "SELECT MAX(collection_id)+1 FROM bad_channels"] := by
  refine ⟨by decide +kernel, rfl, rfl, rfl⟩

end RunConditions.Script
