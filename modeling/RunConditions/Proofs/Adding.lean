import RunConditions.Proofs.Collections
import RunConditions.Proofs.Validation

/-!
# What a new record points at

A record is added if its table is configured and its range of runs is not
empty. Whether the table has rows under the collection id of the record is not
asked: the insert of the record is all that is sent, and what the database
would answer to questions plays no part. So a record can be added that points
at nothing.
-/

set_option autoImplicit false

namespace RunConditions

variable {b : Backend}

abbrev Backend.Answers (b : Backend) : Type :=
  b.Handle → String → b.World → Except Error ResultSet × b.World

@[reducible]
def Backend.answering (b : Backend) (answers : b.Answers) : Backend :=
  { b with select := answers }

namespace Link

def answering (l : Link b) (answers : b.Answers) : Link (b.answering answers) where
  parameters := l.parameters
  handle := l.handle
  world := l.world

def SameButAnswers (answers : b.Answers) (l : Link b) (l' : Link (b.answering answers)) : Prop :=
  l' = l.answering answers

variable {answers : b.Answers}

theorem act_sameButAnswers {α : Type} (f : b.World → Except Error α × b.World) :
    Alike (SameButAnswers answers) (act f) (act f) := by
  rintro l _ rfl
  rw [outcome_act, outcome_act, final_act, final_act]
  exact ⟨rfl, rfl⟩

theorem isConnected_answering (l : Link b) :
    (l.answering answers).isConnected = l.isConnected := by
  obtain ⟨p, _ | h, w⟩ := l <;> rfl

theorem connect_sameButAnswers : Alike (SameButAnswers answers) connect connect := by
  apply Alike.get_bind
  rintro l _ rfl
  have hparameters : (l.answering answers).parameters = l.parameters := rfl
  rw [isConnected_answering, hparameters]
  split
  · exact Alike.pure _
  · split
    · exact Alike.throw _
    · apply (act_sameButAnswers _).bind
      intro h
      refine (Alike.modify ?_).bind fun _ => Alike.pure _
      rintro l _ rfl
      rfl

theorem forceDisconnect_sameButAnswers :
    Alike (SameButAnswers answers) forceDisconnect forceDisconnect := by
  apply Alike.get_bind
  rintro l _ rfl
  have hset : Alike (SameButAnswers answers) (set { l with parameters := none, handle := none })
      (set { l.answering answers with parameters := none, handle := none }) :=
    fun _ _ _ => ⟨rfl, rfl⟩
  apply hset.bind
  intro _
  have hhandle : (l.answering answers).handle = l.handle := rfl
  rw [hhandle]
  split
  · exact Alike.pure _
  · rename_i h _
    have hclosed : (b.answering answers).isClosed h (l.answering answers).world =
        b.isClosed h l.world := rfl
    rw [hclosed]
    split
    · exact Alike.pure _
    · exact (act_sameButAnswers _).bind fun _ => Alike.pure _

theorem disconnect_sameButAnswers (openedHere : Bool) :
    Alike (SameButAnswers answers) (disconnect openedHere) (disconnect openedHere) := by
  cases openedHere with
  | true => exact forceDisconnect_sameButAnswers
  | false => exact Alike.pure false

theorem update_sameButAnswers (sql : String) :
    Alike (SameButAnswers answers) (update sql) (update sql) := by
  apply Alike.get_bind
  rintro l _ rfl
  have hhandle : (l.answering answers).handle = l.handle := rfl
  rw [hhandle]
  split
  · exact Alike.throw _
  · rename_i h _
    have hclosed : (b.answering answers).isClosed h (l.answering answers).world =
        b.isClosed h l.world := rfl
    rw [hclosed]
    split
    · exact Alike.throw _
    · exact act_sameButAnswers _

end Link

namespace Manager

def answering (m : Manager b) (answers : b.Answers) : Manager (b.answering answers) where
  types := m.types
  link := m.link.answering answers
  reader := m.reader
  tables := m.tables
  converters := m.converters
  conditionsTable := m.conditionsTable
  cache := m.cache
  detector := m.detector
  run := m.run
  configured := m.configured
  shared := m.shared

def SameButAnswers (answers : b.Answers) (m : Manager b) (m' : Manager (b.answering answers)) :
    Prop :=
  m' = m.answering answers

variable {answers : b.Answers}

theorem onLink_sameButAnswers {α : Type} {x : EStateM Error (Link b) α}
    {y : EStateM Error (Link (b.answering answers)) α}
    (h : Alike (Link.SameButAnswers answers) x y) :
    Alike (SameButAnswers answers) (onLink x) (onLink y) := by
  apply onLink_alike
  rintro m _ rfl
  obtain ⟨houtcome, hfinal⟩ := h m.link _ rfl
  refine ⟨houtcome, ?_⟩
  have hlink : final y (m.answering answers).link = (final x m.link).answering answers := hfinal
  rw [hlink]
  rfl

theorem addRecord_sameButAnswers (record : Record) :
    Alike (SameButAnswers answers) (addRecord record) (addRecord record) := by
  apply addRecord_alike record
  · rintro m _ rfl
    rfl
  · rintro m _ rfl
    rfl
  · exact fun sql => onLink_sameButAnswers (Link.update_sameButAnswers sql)
  · rintro m _ rfl
    rfl

structure RecordsIn (m : Manager b) (c : Table) : Prop where
  name : m.conditionsTable = some c.name
  configured : m.tables.find? c.name = some c

theorem RecordsIn.unique {m : Manager b} {c c' : Table} (h : m.RecordsIn c)
    (h' : m.RecordsIn c') : c = c' := by
  have hname : c.name = c'.name := Option.some.inj (h.name.symm.trans h'.name)
  have hfound : m.tables.find? c.name = some c' := by rw [hname, h'.configured]
  exact Option.some.inj (h.configured.symm.trans hfound)

theorem addRecord_of_no_table {m : Manager b} (h : ∀ c, ¬ m.RecordsIn c) (record : Record) :
    ∃ e, addRecord record m = .error e m := by
  simp only [addRecord, requireTable, bind_apply, get_apply]
  cases hname : m.conditionsTable with
  | none => exact ⟨_, rfl⟩
  | some name =>
    simp only [bind_apply, get_apply]
    cases ht : m.tables.find? name with
    | none => exact ⟨_, rfl⟩
    | some c =>
      obtain rfl := Tables.name_of_find? ht
      exact absurd ⟨hname, ht⟩ (h c)

end Manager

namespace CommandLine
open Manager

/-- What the database answers to questions plays no part. -/
theorem add_answering (s : Surroundings) (a : AddArguments) (m : Manager b)
    (answers : b.Answers) :
    outcome (add s a) (m.answering answers) = outcome (add s a) m ∧
      final (add s a) (m.answering answers) = (final (add s a) m).answering answers := by
  have halike : Alike (SameButAnswers answers) (add s a) (add s a) := by
    apply add_alike s a
    · rintro m _ rfl
      rfl
    · exact onLink_sameButAnswers Link.connect_sameButAnswers
    · exact fun openedHere => onLink_sameButAnswers (Link.disconnect_sameButAnswers openedHere)
    · exact addRecord_sameButAnswers
  obtain ⟨houtcome, hfinal⟩ := halike m _ rfl
  exact ⟨houtcome.symm, hfinal⟩

def recordStatement (c : Table) (record : Record) : Sql.Statement :=
  .insertRecord c.name c.key record

theorem addRecord_over {m : Manager b.journaled} {h : b.Handle} {c : Table}
    (hh : m.link.handle = some h) (hc : m.RecordsIn c) (record : Record) :
    (final (addRecord record) m).link.asked = m.link.asked ++
        (if b.isClosed h m.link.world.1 then [] else [.update (recordStatement c record).text]) ∧
      ∀ id, outcome (addRecord record) m = .ok id → b.isClosed h m.link.world.1 = false ∧
        ∃ keys v,
          b.update h (recordStatement c record).text m.link.world.1 = (.ok (id :: keys), v) := by
  rw [outcome, final, addRecord_apply hc.name hc.configured, ← recordStatement]
  cases hclosed : b.isClosed h m.link.world.1 with
  | true =>
    have hlost : m.link.isConnected = false := Link.isConnected_of_closed hh hclosed
    rw [update, onLink, Link.update, Link.use_eq_error hlost]
    refine ⟨(List.append_nil _).symm, fun id hid => ?_⟩
    cases hid
  | false =>
    rcases hupdate : b.journaled.update h (recordStatement c record).text m.link.world with
      ⟨answer, w'⟩
    obtain ⟨hupdate', hjournal⟩ := update_unjournaled hclosed hupdate
    have hasked : (m.moved w').link.asked =
        m.link.asked ++ [.update (recordStatement c record).text] := by
      have hmoved : (m.moved w').link = m.link.moved (w'.1, w'.2) := rfl
      rw [hmoved, hjournal]
      exact m.link.asked_append h w'.1 [.update (recordStatement c record).text]
    rw [update_apply hh hclosed, hupdate]
    rcases answer with e | _ | ⟨id, keys⟩
    · refine ⟨hasked, fun id hid => ?_⟩
      cases hid
    · refine ⟨hasked, fun id hid => ?_⟩
      cases hid
    · refine ⟨hasked, fun id' hid => ?_⟩
      obtain rfl := Except.ok.inj hid
      exact ⟨rfl, keys, _, hupdate'⟩

theorem addRecord_unsent {m : Manager b.journaled} {h : b.Handle} (hh : m.link.handle = some h)
    (hlost : ∀ c, m.RecordsIn c → b.isClosed h m.link.world.1 = true) (record : Record) :
    (∃ e, outcome (addRecord record) m = .error e) ∧
      (final (addRecord record) m).link.asked = m.link.asked := by
  by_cases hrecords : ∃ c, m.RecordsIn c
  · obtain ⟨c, hc⟩ := hrecords
    obtain ⟨hsent, hadded⟩ := addRecord_over hh hc record
    rw [hlost c hc] at hsent hadded
    refine ⟨?_, hsent.trans (List.append_nil _)⟩
    cases hdone : outcome (addRecord record) m with
    | error e => exact ⟨e, rfl⟩
    | ok id => cases (hadded id hdone).1
  · have hno : ∀ c, ¬ m.RecordsIn c := fun c hc => hrecords ⟨c, hc⟩
    obtain ⟨e, he⟩ := addRecord_of_no_table hno record
    rw [outcome, final, he]
    exact ⟨⟨e, rfl⟩, rfl⟩

/-- A record can be added: its table is configured, its range is not empty, and there are a
table of records and a connection that has not been lost. -/
structure Addable (a : AddArguments) (m : Manager b.journaled) (c : Table) (h : b.Handle)
    (w : b.World) : Prop where
  table : ∃ t, m.tables.find? a.table = some t
  range : a.runStart ≤ a.runEnd
  records : m.RecordsIn c
  works : WorksOn m h w
  isOpen : b.isClosed h w = false

section Adding

variable {s : Surroundings} {a : AddArguments} {m : Manager b.journaled}

theorem Addable.unique {c c' : Table} {h h' : b.Handle} {w w' : b.World}
    (ha : Addable a m c h w) (ha' : Addable a m c' h' w') : c = c' ∧ h = h' ∧ w = w' :=
  ⟨ha.records.unique ha'.records, ha.works.unique ha'.works⟩

theorem add_eq_connected (ht : ∃ t, m.tables.find? a.table = some t)
    (hrange : a.runStart ≤ a.runEnd) : add s a m = connected (addRecord (a.record s)) m := by
  rw [add_apply, addWork_eq_ok_iff.mpr ⟨ht, hrange, rfl⟩]

theorem add_of_addable {c : Table} {h : b.Handle} {w : b.World} (ha : Addable a m c h w) :
    (final (add s a) m).link.asked =
        m.link.asked ++ [.update (recordStatement c (a.record s)).text] ∧
      ∀ id, outcome (add s a) m = .ok id → ∃ keys v,
        b.update h (recordStatement c (a.record s)).text w = (.ok (id :: keys), v) := by
  obtain ⟨begun, hh, rfl, htables, hname, hasked, hfinal, closed, houtcome, -⟩ :=
    ha.works.connected fun _ => addRecord_since (a.record s)
  have hrecords : begun.RecordsIn c :=
    ⟨hname.trans ha.records.name, (congrArg (·.find? c.name) htables).trans ha.records.configured⟩
  obtain ⟨hsent, hadded⟩ := addRecord_over hh hrecords (a.record s)
  rw [outcome, final, add_eq_connected ha.table ha.range, ← outcome, ← final, hfinal, houtcome,
    hsent, hasked, ha.isOpen]
  refine ⟨rfl, fun id hid => ?_⟩
  exact (hadded id (settled_eq_ok hid)).2

theorem add_of_not_addable (hnone : ∀ c h w, ¬ Addable a m c h w) :
    (∃ e, outcome (add s a) m = .error e) ∧ (final (add s a) m).link.asked = m.link.asked := by
  cases hwork : addWork s a m with
  | error e =>
    rw [outcome, final, add_apply, hwork]
    exact ⟨⟨e, rfl⟩, rfl⟩
  | ok body =>
    obtain ⟨ht, hrange, -⟩ := addWork_eq_ok_iff.mp hwork
    rw [outcome, final, add_eq_connected ht hrange, ← outcome, ← final]
    by_cases hworks : ∃ h w, WorksOn m h w
    · obtain ⟨h, w, hm⟩ := hworks
      obtain ⟨begun, hh, rfl, htables, hname, hasked, hfinal, closed, houtcome, -⟩ :=
        hm.connected fun _ => addRecord_since (a.record s)
      have hlost : ∀ c, begun.RecordsIn c → b.isClosed h begun.link.world.1 = true := by
        intro c hc
        have hc' : m.RecordsIn c := ⟨hname ▸ hc.name, htables ▸ hc.configured⟩
        rw [← Bool.not_eq_false]
        exact fun hopen => hnone c h _ ⟨ht, hrange, hc', hm, hopen⟩
      obtain ⟨⟨e, he⟩, hunsent⟩ := addRecord_unsent hh hlost (a.record s)
      rw [hfinal, houtcome, hunsent, he]
      exact ⟨⟨e, rfl⟩, hasked⟩
    · have hno : ∀ h w, ¬ WorksOn m h w := fun h w hm => hworks ⟨h, w, hm⟩
      exact connected_of_no_connection hno _

end Adding

/-- To add a record nothing is asked. What the database would answer changes neither what is
answered nor what is done. The insert of the record is sent just if it can be added, and it is
all that is sent, so that a record that has been added may point at a collection that is not
there. -/
theorem add_asks_nothing (s : Surroundings) (a : AddArguments) (m : Manager b.journaled) :
    (∀ answers, outcome (add s a) (m.answering answers) = outcome (add s a) m ∧
      final (add s a) (m.answering answers) = (final (add s a) m).answering answers) ∧
    ∃ texts, (final (add s a) m).link.asked = m.link.asked ++ texts ∧
      (texts = [] ∨ ∃ sql, texts = [.update sql]) ∧
      (∀ sql, .update sql ∈ texts ↔
        ∃ c h w, Addable a m c h w ∧ sql = (recordStatement c (a.record s)).text) ∧
      ∀ id, outcome (add s a) m = .ok id → ∃ c h w keys v, Addable a m c h w ∧
        b.update h (recordStatement c (a.record s)).text w = (.ok (id :: keys), v) := by
  refine ⟨add_answering s a m, ?_⟩
  by_cases hadd : ∃ c h w, Addable a m c h w
  · obtain ⟨c, h, w, ha⟩ := hadd
    obtain ⟨hasked, hadded⟩ := add_of_addable (s := s) ha
    refine ⟨_, hasked, Or.inr ⟨_, rfl⟩, fun sql => ?_, fun id hid => ?_⟩
    · rw [List.mem_singleton, Query.update.injEq]
      constructor
      · intro hsql
        exact ⟨c, h, w, ha, hsql⟩
      · rintro ⟨c', h', w', ha', hsql⟩
        obtain ⟨rfl, -, -⟩ := ha.unique ha'
        exact hsql
    · obtain ⟨keys, v, hupdate⟩ := hadded id hid
      exact ⟨c, h, w, keys, v, ha, hupdate⟩
  · have hnone : ∀ c h w, ¬ Addable a m c h w := fun c h w ha => hadd ⟨c, h, w, ha⟩
    obtain ⟨⟨e, he⟩, hasked⟩ := add_of_not_addable (s := s) hnone
    refine ⟨[], hasked.trans (List.append_nil _).symm, Or.inl rfl, fun sql => ?_, fun id hid => ?_⟩
    · simp only [List.not_mem_nil, false_iff]
      rintro ⟨c, h, w, ha, -⟩
      exact hnone c h w ha
    · rw [he] at hid
      cases hid

end CommandLine

namespace Memory
open CommandLine

def secondChannels : AddArguments where
  name := "bad"
  table := "bad_channels"
  collection := 2
  runStart := 0
  runEnd := 1000

/-- Bad channels are stored under the id 4 alone, the database says so to whoever asks, and the
record is added nevertheless. -/
theorem dangling_record_added :
    storage.Truthful ∧ storage.under stored "bad_channels" 2 = 0 ∧
      (outcome (add ⟨Files.none, "tester"⟩ secondChannels) (manager.moved stored)).toOption =
        some 2 ∧
      (final (add ⟨Files.none, "tester"⟩ secondChannels) (manager.moved stored)).link.world.map
          (fun row => (row.table, (row.value "table_name").bind Value.text?, row.collection)) =
        [("conditions", some "bad_channels", some 2), ("bad_channels", none, some 4)] := by
  -- one evaluation for the answer and for the rows that are left
  refine ⟨truthful, ?_, by decide +kernel⟩
  rw [← Multiset.card_eq_zero, card_under]
  rfl

end Memory
end RunConditions
