import Mathlib.Data.Multiset.Filter
import Mathlib.Order.Bounds.Defs
import RunConditions.Database.Backend
import RunConditions.Proofs.RowsText
import RunConditions.Proofs.StoredRow

/-!
# What a database stores

A database has tables under names, and in them rows under collection ids. It is
truthful if it answers the questions for collection ids from its rows and
carries an insert of rows out as a whole or not at all. It may refuse whatever
it is asked, as when a number is too great or a column is named twice. A
database in memory is truthful.
-/

set_option autoImplicit false

namespace RunConditions

open Sql (collectionColumn PlainName NewRows)

structure Storage (b : Backend) where
  Table : Type
  Row : Type
  table? : String → Option Table
  rows : b.World → Table → Multiset Row
  collection : Row → Option Int
  /-- Whether a row has in a column what a value is there. -/
  has : Row → String → Option Value → Prop

namespace Storage

variable {b : Backend} (s : Storage b)

def ids (w : b.World) (t : s.Table) : Set Int :=
  {n | ∃ row ∈ s.rows w t, s.collection row = some n}

def under (w : b.World) (t : s.Table) (n : Int) : Multiset s.Row :=
  (s.rows w t).filter fun row => s.collection row = some n

def Written (names : List String) (values : List (Option Value)) (row : s.Row) : Prop :=
  ∀ p ∈ names.zip values, s.has row p.1 p.2

def Same (w w' : b.World) : Prop :=
  ∀ t, s.rows w' t = s.rows w t

structure Adds (w : b.World) (t : s.Table) (added : Multiset s.Row) (w' : b.World) : Prop where
  rows : s.rows w' t = s.rows w t + added
  others : ∀ t', t' ≠ t → s.rows w' t' = s.rows w t'

structure Truthful : Prop where
  collection : ∀ row n, s.has row collectionColumn (some (.integer n)) →
    s.collection row = some n
  connect : ∀ p w, s.Same w (b.connect p w).2
  close : ∀ h w, s.Same w (b.close h w).2
  /-- Next to the greatest id in use, and no value if there is none. -/
  next : ∀ h w name t, s.table? name = some t →
    s.Same w (b.select h (Sql.Statement.nextCollection name).text w).2 ∧
    ∀ answer, (b.select h (Sql.Statement.nextCollection name).text w).1 = .ok answer →
      (s.ids w t = ∅ ∧ answer.single? = none) ∨
      ∃ n, IsGreatest (s.ids w t) n ∧ answer.single? = some (.integer (n + 1))
  count : ∀ h w name t n, s.table? name = some t →
    s.Same w (b.select h (Sql.Statement.countCollection name n).text w).2 ∧
    ∀ answer, (b.select h (Sql.Statement.countCollection name n).text w).1 = .ok answer →
      answer.single? = some (.integer (s.under w t n).card)
  /-- An insert either fails and changes nothing, or adds just the rows listed. -/
  insert : ∀ h w name t sql (new : NewRows) key, s.table? name = some t →
    Sql.readRows name sql = some (new, key) → (∀ column ∈ new.names, PlainName column) →
    ((∃ e, (b.update h sql w).1 = .error e) ∧ s.Same w (b.update h sql w).2) ∨
    ∃ keys added, (b.update h sql w).1 = .ok keys ∧
      Multiset.Rel (s.Written new.names) new.tuples added ∧
      s.Adds w t added (b.update h sql w).2

variable {s}

theorem Same.refl (w : b.World) : s.Same w w := fun _ => rfl

theorem Same.trans {w w' w'' : b.World} (h : s.Same w w') (h' : s.Same w' w'') : s.Same w w'' :=
  fun t => (h' t).trans (h t)

theorem Same.ids {w w' : b.World} (h : s.Same w w') (t : s.Table) : s.ids w' t = s.ids w t := by
  rw [Storage.ids, h t]
  rfl

theorem Same.under {w w' : b.World} (h : s.Same w w') (t : s.Table) (n : Int) :
    s.under w' t n = s.under w t n := by
  rw [Storage.under, h t]
  rfl

theorem under_eq_zero_iff {w : b.World} {t : s.Table} {n : Int} :
    s.under w t n = 0 ↔ n ∉ s.ids w t := by
  rw [under, Multiset.filter_eq_nil]
  simp [Storage.ids]

theorem Adds.of_same {w w' v v' : b.World} {t : s.Table} {added : Multiset s.Row}
    (h : s.Same w w') (ha : s.Adds w' t added v) (h' : s.Same v v') : s.Adds w t added v' where
  rows := by rw [h' t, ha.rows, h t]
  others t' ht' := by rw [h' t', ha.others t' ht', h t']

end Storage

structure StoredRow where
  table : String
  cells : List (String × Option Value)

namespace StoredRow

def value (row : StoredRow) (column : String) : Option Value :=
  valueIn (row.cells.map Prod.fst) (row.cells.map Prod.snd) column

def collection (row : StoredRow) : Option Int :=
  (row.value collectionColumn).bind Value.integer?

end StoredRow

namespace Memory

abbrev State : Type := List StoredRow

def table? (name : String) : Option String :=
  if ' ' ∈ name.toList then none else some name

def ids (s : State) (table : String) : List Int :=
  (s.filter (·.table = table)).filterMap StoredRow.collection

def count (s : State) (table : String) (n : Int) : Nat :=
  s.countP fun row => row.table = table ∧ row.collection = some n

def nextOf? (sql : String) : Option String :=
  (("SELECT MAX(" ++ collectionColumn ++ ")+1 FROM ").toList.isPrefixOf? sql.toList).map
    String.ofList

def countOf? (sql : String) : Option (String × Int) := do
  let rest ← "SELECT COUNT(*) FROM ".toList.isPrefixOf? sql.toList
  let number ← (" WHERE " ++ collectionColumn ++ " = ").toList.isPrefixOf?
    (rest.dropWhile (· != ' '))
  match Sql.readValue (number ++ [')']) with
  | some (some (.integer n), [')']) => some (String.ofList (rest.takeWhile (· != ' ')), n)
  | _ => none

def intoOf? (sql : String) : Option String :=
  ("INSERT INTO ".toList.isPrefixOf? sql.toList).map fun rest =>
    String.ofList (rest.takeWhile (· != ' '))

def refusal (sql : String) : Error :=
  .query sql (.other "the statement is refused")

def select (sql : String) (s : State) : Except Error ResultSet × State :=
  match nextOf? sql with
  | some table =>
    match (ids s table).max? with
    | none => (.ok ⟨["?column?"], [[none]]⟩, s)
    | some n =>
      if n < 0x7fffffffffffffff then (.ok ⟨["?column?"], [[some (.integer (n + 1))]]⟩, s)
      else (.error (.query sql (.other "bigint out of range")), s)
  | none =>
    match countOf? sql with
    | some (table, n) => (.ok ⟨["count"], [[some (.integer (count s table n))]]⟩, s)
    | none => (.error (refusal sql), s)

/-- Rows are accepted if no column is named twice. -/
def update (sql : String) (s : State) : Except Error (List Int) × State :=
  match (intoOf? sql).bind fun table =>
      (Sql.readRows table sql).map fun read => (table, read.1) with
  | none => (.error (refusal sql), s)
  | some (table, new) =>
    if new.names.Pairwise fun a c => Text.sameLetters a c = false then
      (.ok ((List.range new.tuples.length).map fun i => (s.length + i + 1 : Int)),
        new.tuples.map (fun values => ⟨table, new.names.zip values⟩) ++ s)
    else (.error (refusal sql), s)

@[reducible]
def backend : Backend where
  World := State
  Handle := Unit
  connect _ s := (.ok (), s)
  select _ := select
  update _ := update
  close _ s := (.ok (), s)
  isClosed _ _ := false

@[reducible]
def storage : Storage backend where
  Table := String
  Row := StoredRow
  table? := table?
  rows s table := (s.filter (·.table = table) : List StoredRow)
  collection := StoredRow.collection
  has row column v := row.value column = v

theorem nextOf?_nextCollection (table : String) :
    nextOf? (Sql.Statement.nextCollection table).text = some table := by
  have htext : (Sql.Statement.nextCollection table).text.toList =
      ("SELECT MAX(" ++ collectionColumn ++ ")+1 FROM ").toList ++ table.toList := by
    show ("SELECT MAX(" ++ collectionColumn ++ ")+1 FROM " ++ table).toList = _
    rw [String.toList_append]
  rw [nextOf?, htext, Sql.isPrefixOf?_append, Option.map_some, String.ofList_toList]

theorem countCollection_text (table : String) (n : Int) :
    (Sql.Statement.countCollection table n).text.toList =
      "SELECT COUNT(*) FROM ".toList ++ (table.toList ++
        ((" WHERE " ++ collectionColumn ++ " = ").toList ++ (toString n).toList)) := by
  show ("SELECT COUNT(*) FROM " ++ table ++ " WHERE " ++ collectionColumn ++ " = " ++
    toString n).toList = _
  simp only [String.toList_append, List.append_assoc]

theorem nextOf?_countCollection (table : String) (n : Int) :
    nextOf? (Sql.Statement.countCollection table n).text = none := by
  have hother : ∀ start rest, ("SELECT MAX(".toList ++ start).isPrefixOf?
      ("SELECT COUNT(*) FROM ".toList ++ rest) = none := fun _ _ => rfl
  rw [nextOf?, countCollection_text, String.append_assoc, String.toList_append, hother]
  rfl

section Named

variable {table : String} (htable : ' ' ∉ table.toList)
include htable

theorem countOf?_countCollection (n : Int) :
    countOf? (Sql.Statement.countCollection table n).text = some (table, n) := by
  have hblank : ∀ rest, ((" WHERE " ++ collectionColumn ++ " = ").toList ++ rest).head? =
      some ' ' := fun _ => rfl
  have hnumber := Sql.toString_writes n [')'] ⟨_, _, rfl, Or.inr rfl⟩
  rw [countOf?, countCollection_text]
  simp only [Sql.isPrefixOf?_append, Option.bind_eq_bind, Option.bind_some,
    Sql.takeWhile_mark htable (hblank _), Sql.dropWhile_mark htable (hblank _), hnumber,
    String.ofList_toList]

theorem intoOf?_of_readRows {sql : String} {read : NewRows × String}
    (hread : Sql.readRows table sql = some read) : intoOf? sql = some table := by
  obtain ⟨rest, hrest, -⟩ := Option.bind_eq_some_iff.mp hread
  have htext : sql.toList = "INSERT INTO ".toList ++ (table.toList ++ (" (".toList ++ rest)) := by
    rw [← List.isPrefixOf?_eq_some_iff_append_eq.mp hrest]
    simp only [String.toList_append, List.append_assoc]
  have hblank : (" (".toList ++ rest).head? = some ' ' := rfl
  rw [intoOf?, htext, Sql.isPrefixOf?_append, Option.map_some, Sql.takeWhile_mark htable hblank,
    String.ofList_toList]

end Named

theorem table?_eq_some_iff {name table : String} :
    table? name = some table ↔ ' ' ∉ name.toList ∧ name = table := by
  rw [table?]
  split <;> simp [*]

theorem mem_ids_iff {s : State} {table : String} {n : Int} :
    n ∈ ids s table ↔ n ∈ storage.ids s table := by
  rw [ids, List.mem_filterMap]
  exact Iff.rfl

theorem card_under (s : State) (table : String) (n : Int) :
    (storage.under s table n).card = count s table n := by
  rw [count, List.countP_eq_length_filter]
  show (((s.filter fun row => row.table = table).filter
    fun row => row.collection = some n : List StoredRow)).length = _
  rw [List.filter_filter]
  congr 2
  funext row
  simp [Bool.and_comm]

theorem select_nextCollection (s : State) (table : String) :
    ∃ answer, select (Sql.Statement.nextCollection table).text s = (answer, s) ∧
      ∀ result, answer = .ok result → (ids s table = [] ∧ result.single? = none) ∨
        ∃ n, n ∈ ids s table ∧ (∀ i ∈ ids s table, i ≤ n) ∧
          result.single? = some (.integer (n + 1)) := by
  simp only [select, nextOf?_nextCollection]
  cases hmax : (ids s table).max? with
  | none =>
    refine ⟨_, rfl, ?_⟩
    rintro result ⟨⟩
    exact Or.inl ⟨List.max?_eq_none_iff.mp hmax, rfl⟩
  | some n =>
    obtain ⟨hmem, hgreatest⟩ := List.max?_eq_some_iff.mp hmax
    dsimp only
    split
    · refine ⟨_, rfl, ?_⟩
      rintro result ⟨⟩
      exact Or.inr ⟨n, hmem, hgreatest, rfl⟩
    · refine ⟨_, rfl, ?_⟩
      rintro result ⟨⟩

theorem select_countCollection (s : State) {table : String} (htable : ' ' ∉ table.toList)
    (n : Int) :
    select (Sql.Statement.countCollection table n).text s =
      (.ok ⟨["count"], [[some (.integer (count s table n))]]⟩, s) := by
  simp only [select, nextOf?_countCollection, countOf?_countCollection htable]

theorem written_given (table : String) {names : List String} (values : List (Option Value))
    (hnames : names.Pairwise fun a c => Text.sameLetters a c = false) :
    storage.Written names values ⟨table, names.zip values⟩ := by
  have hgiven : ((names.zip values).map Prod.fst).Pairwise
      fun a c => Text.sameLetters a c = false := by
    rw [List.zip_eq_zip_take_min, List.map_fst_zip (by simp)]
    exact hnames.take
  exact valueIn_given hgiven

theorem rows_append (s : State) (table table' : String) (new : List StoredRow)
    (hnew : ∀ row ∈ new, row.table = table) :
    storage.rows (new ++ s) table' =
      if table' = table then storage.rows s table' + (new : Multiset StoredRow)
      else storage.rows s table' := by
  show (((new ++ s).filter (·.table = table') : List StoredRow) : Multiset StoredRow) = _
  rw [List.filter_append]
  split
  · rename_i hsame
    subst hsame
    have hall : new.filter (·.table = table') = new := by simpa using hnew
    rw [hall, ← Multiset.coe_add, Multiset.add_comm]
  · rename_i hother
    have hnone : new.filter (·.table = table') = [] := by
      rw [List.filter_eq_nil_iff]
      intro row hrow
      simpa [hnew row hrow] using Ne.symm hother
    rw [hnone, List.nil_append]

theorem truthful : storage.Truthful where
  collection row n hn := by
    change row.value collectionColumn = some (.integer n) at hn
    change (row.value collectionColumn).bind Value.integer? = some n
    rw [hn]
    rfl
  connect _ w := .refl w
  close _ w := .refl w
  next _ s name table ht := by
    obtain ⟨-, rfl⟩ := table?_eq_some_iff.mp ht
    obtain ⟨answer, hselect, hanswer⟩ := select_nextCollection s name
    change storage.Same s (select _ s).2 ∧ ∀ result, (select _ s).1 = .ok result → _
    rw [hselect]
    refine ⟨.refl s, fun result hresult => ?_⟩
    rcases hanswer result hresult with ⟨hnil, hnone⟩ | ⟨n, hmem, hgreatest, hn⟩
    · refine Or.inl ⟨Set.eq_empty_iff_forall_notMem.mpr fun i hi => ?_, hnone⟩
      rw [← mem_ids_iff, hnil] at hi
      cases hi
    · exact Or.inr ⟨n, ⟨mem_ids_iff.mp hmem, fun i hi => hgreatest i (mem_ids_iff.mpr hi)⟩, hn⟩
  count _ s name table n ht := by
    obtain ⟨htable, rfl⟩ := table?_eq_some_iff.mp ht
    change storage.Same s (select _ s).2 ∧ ∀ result, (select _ s).1 = .ok result → _
    rw [select_countCollection s htable]
    refine ⟨.refl s, ?_⟩
    rintro result ⟨⟩
    rw [card_under]
    rfl
  insert _ s name table sql new key ht hread _ := by
    obtain ⟨htable, rfl⟩ := table?_eq_some_iff.mp ht
    change ((∃ e, (update sql s).1 = .error e) ∧ storage.Same s (update sql s).2) ∨
      ∃ keys added, (update sql s).1 = .ok keys ∧ _ ∧ storage.Adds s name added (update sql s).2
    simp only [update, intoOf?_of_readRows htable hread, hread, Option.bind_some, Option.map_some]
    split
    · rename_i hnames
      refine Or.inr ⟨_, (new.tuples.map fun values => ⟨name, new.names.zip values⟩ :
        List StoredRow), rfl, ?_, ?_⟩
      · rw [← Multiset.map_coe, Multiset.rel_map_right]
        exact Multiset.rel_refl_of_refl_on fun values _ => written_given name values hnames
      · have hrows := fun table' => rows_append s name table'
          (new.tuples.map fun values => ⟨name, new.names.zip values⟩) (by simp)
        constructor
        · rw [hrows, if_pos rfl]
        · intro table' hother
          rw [hrows, if_neg hother]
    · exact Or.inl ⟨⟨_, rfl⟩, .refl s⟩

end Memory
end RunConditions
