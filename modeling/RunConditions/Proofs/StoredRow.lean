import Mathlib.Data.List.Perm.Basic
import RunConditions.Proofs.InsertText
import RunConditions.Proofs.RowBuilding

/-!
# Records in rows

A row of a table holds a conditions record if it has the id of the record under
the key of the table and the other values under the names under which they are
written. Columns may keep the values that are written into them as values of
another kind. Where they are of the kinds that records are read from, they show
the record all the same, as long as they read as the same texts.
-/

set_option autoImplicit false

namespace RunConditions

def Record.InRange (r : Record) : Prop :=
  (-0x80000000 ≤ r.runStart ∧ r.runStart < 0x80000000) ∧
    -0x80000000 ≤ r.runEnd ∧ r.runEnd < 0x80000000

/-- The row of a table that holds a record. -/
structure Record.StoredIn (r : Record) (columns : List String) (key : String)
    (row : List (Option Value)) : Prop where
  id : valueIn columns row key = some (.integer r.id)
  values : ∀ p ∈ Record.columns.zip (Sql.recordCells r), valueIn columns row p.1 = p.2
  inRange : r.InRange

/-- Both read as one text, or neither is there. -/
def Value.SameText (v v' : Option Value) : Prop :=
  ∃ s, Format.anyText.Takes v s ∧ Format.anyText.Takes v' s

theorem Value.sameText_iff {v v' : Option Value} :
    SameText v v' ↔ v.map display = v'.map display := by
  simp only [SameText, Format.anyText_takes_iff, exists_eq_left]

namespace Format

variable {f : Format} {v cell : Option Value} {x : f.Content}

/-- A column of the right kind shows what has been written into it. -/
theorem takes_of_sameText (hf : f ≠ .number) (hx : f.Takes v x) (hcell : f.Accepts cell)
    (h : Value.SameText v cell) : f.Takes cell x := by
  rw [Value.sameText_iff] at h
  obtain ⟨y, hy⟩ := accepts_iff.mp hcell
  -- Two integers that read as one text are equal.
  have integers : ∀ {m n : Int}, v = some (.integer m) → cell = some (.integer n) → n = m := by
    rintro m n rfl rfl
    have htext : toString m = toString n := Option.some.inj h
    have hvalue := (Sql.toString_writes n).value_eq (htext ▸ Sql.toString_writes m)
    exact Value.integer.inj (Option.some.inj hvalue)
  cases f with
  | integer =>
    obtain rfl := integers hx hy
    exact hy
  | integer32 =>
    obtain rfl := integers hx.1 hy.1
    exact hy
  | number => exact absurd rfl hf
  | text =>
    obtain rfl : v = some (.text x) := hx
    obtain rfl : cell = some (.text y) := hy
    exact congrArg (Option.map Value.text) h.symm
  | anyText =>
    rw [anyText_takes_iff] at hx ⊢
    rw [hx, h]

end Format

section Showing

variable {t : Table} {columns : List String} {row : List (Option Value)} {r : Record}

theorem Record.shows_of_holds (hr : r.InRange)
    (hid : Holds columns row (t.key, .integer) ⟨.integer, r.id⟩)
    (h : ∀ p ∈ Record.columns.zip (Sql.recordCells r), ∀ (f : Format) (x : f.Content),
      (p.1, f) ∈ RowType.record.layout t.key → f ≠ .number → f.Takes p.2 x →
        Holds columns row (p.1, f) ⟨f, x⟩) : t.Shows .record columns row r := by
  simp only [Record.columns, Sql.recordCells, List.zip_cons_cons, List.zip_nil_right,
    List.mem_cons, List.not_mem_nil, forall_eq_or_imp] at h
  obtain ⟨hstart, hend, hname, htable, hcollection, htag, huser, hnotes, -⟩ := h
  have hany : ∀ o : Option String, Format.anyText.Takes (o.map .text) o := by
    rintro (_ | s)
    · exact .none
    · exact .some (.text s)
  exact .cons hid
    (.cons (hstart .integer32 _ (by simp [RowType.layout]) (by simp) ⟨rfl, hr.1⟩)
    (.cons (hend .integer32 _ (by simp [RowType.layout]) (by simp) ⟨rfl, hr.2⟩)
    (.cons (hname .text _ (by simp [RowType.layout]) (by simp) rfl)
    (.cons (htable .text _ (by simp [RowType.layout]) (by simp) rfl)
    (.cons (hcollection .integer _ (by simp [RowType.layout]) (by simp) rfl)
    (.cons (htag .anyText _ (by simp [RowType.layout]) (by simp) (hany _))
    (.cons (huser .anyText _ (by simp [RowType.layout]) (by simp) (hany _))
    (.cons (hnotes .anyText _ (by simp [RowType.layout]) (by simp) (hany _)) .nil))))))))

theorem Record.shows_of_storedIn
    (hcolumns : ∀ name ∈ t.key :: Record.columns, HasColumn columns name)
    (h : r.StoredIn columns t.key row) : t.Shows .record columns row r := by
  have hholds : ∀ (name : String) (f : Format) (x : f.Content), name ∈ t.key :: Record.columns →
      f.Takes (valueIn columns row name) x → Holds columns row (name, f) ⟨f, x⟩ := by
    intro name f x hname htakes
    obtain ⟨i, hi⟩ := hasColumn_iff.mp (hcolumns name hname)
    exact ⟨rfl, i, hi, valueIn_eq_cellAt hi ▸ htakes⟩
  refine shows_of_holds h.inRange (hholds _ .integer _ List.mem_cons_self h.id) ?_
  intro p hp f x _ _ htakes
  rw [← h.values p hp] at htakes
  exact hholds p.1 f x (List.mem_cons_of_mem _ (List.of_mem_zip hp).1) htakes

/-- A row that is sound for records shows the record whose values have been written into it. -/
theorem Record.shows_of_sameText (hsound : t.SoundRow .record columns row) (hr : r.InRange)
    (hid : valueIn columns row t.key = some (.integer r.id))
    (h : ∀ p ∈ Record.columns.zip (Sql.recordCells r),
      Value.SameText p.2 (valueIn columns row p.1)) : t.Shows .record columns row r := by
  obtain ⟨i, hi, -⟩ := hsound (t.key, .integer) List.mem_cons_self
  refine shows_of_holds hr ⟨rfl, i, hi, valueIn_eq_cellAt hi ▸ hid⟩ ?_
  intro p hp f x hlayout hf htakes
  obtain ⟨j, hj, haccepts⟩ := hsound (p.1, f) hlayout
  have hsame := h p hp
  rw [valueIn_eq_cellAt hj] at hsame
  exact ⟨rfl, j, hj, Format.takes_of_sameText hf htakes haccepts hsame⟩

theorem Record.valueIn_key_of_shows (h : t.Shows .record columns row r) :
    valueIn columns row t.key = some (.integer r.id) := by
  obtain ⟨⟨-, i, hi, htakes⟩, -⟩ := List.forall₂_cons.mp h
  rw [valueIn_eq_cellAt hi]
  exact htakes

end Showing

theorem Record.read_of_storedIn {f : Fields} {row : List (Option Value)} {r : Record}
    (hrow : f.result.rows[f.row]? = some row)
    (hcolumns : ∀ name ∈ f.key :: Record.columns, HasColumn f.result.columns name)
    (h : r.StoredIn f.result.columns f.key row) : Record.read f = .ok r :=
  (RowType.read_eq_ok_iff (r := .record) hrow).mpr
    (shows_of_storedIn (t := ⟨f.table, f.key, .record, "", "", []⟩) hcolumns h)

theorem Table.read_records {t : Table} {result : ResultSet} {records : List Record}
    (hfields : result.rows ≠ [] → ∀ name ∈ t.fields, HasColumn result.columns name)
    (h : List.Forall₂ (t.Shows .record result.columns) result.rows records) :
    t.read .record result = .ok ⟨records, none⟩ := by
  rw [read_eq_iff]
  by_cases hempty : result.rows = []
  · rw [hempty] at h
    cases h
    exact .nothing hempty
  · exact .objects hempty (hfields hempty) h

end RunConditions
