import Mathlib.Logic.Basic
import RunConditions.Fields

/-!
# What a column is read as

A row is read by the names of columns. The first column with a name counts, and
a row that is too short for it has no value there. Each of the five formats says
which cells it takes, what it makes of them, and why it refuses the others.
-/

set_option autoImplicit false

namespace RunConditions

def HasColumn (columns : List String) (name : String) : Prop :=
  ∃ c ∈ columns, Text.sameLetters c name = true

/-- The first column with this name, up to letter case, stands at this place. -/
structure FirstColumn (columns : List String) (name : String) (i : Nat) : Prop where
  named : ∃ c, columns[i]? = some c ∧ Text.sameLetters c name = true
  first : ∀ j c, j < i → columns[j]? = some c → Text.sameLetters c name = false

def cellAt (row : List (Option Value)) (i : Nat) : Option Value :=
  row[i]?.join

theorem findIdx?_sameLetters_iff {columns : List String} {name : String} {i : Nat} :
    columns.findIdx? (Text.sameLetters · name) = some i ↔ FirstColumn columns name i := by
  rw [List.findIdx?_eq_some_iff_getElem]
  constructor
  · rintro ⟨hi, hnamed, hfirst⟩
    refine ⟨⟨_, List.getElem?_eq_getElem hi, hnamed⟩, fun j c hj hc => ?_⟩
    obtain ⟨hlt, rfl⟩ := List.getElem?_eq_some_iff.mp hc
    exact Bool.eq_false_iff.mpr (hfirst j hj)
  · rintro ⟨⟨c, hc, hnamed⟩, hfirst⟩
    obtain ⟨hi, rfl⟩ := List.getElem?_eq_some_iff.mp hc
    refine ⟨hi, hnamed, fun j hj => ?_⟩
    have hlt : j < columns.length := Nat.lt_trans hj hi
    exact Bool.eq_false_iff.mp (hfirst j _ hj (List.getElem?_eq_getElem hlt))

theorem ResultSet.column?_eq_some_iff {result : ResultSet} {name : String} {i : Nat} :
    result.column? name = some i ↔ FirstColumn result.columns name i :=
  findIdx?_sameLetters_iff

theorem ResultSet.column?_eq_none_iff {result : ResultSet} {name : String} :
    result.column? name = none ↔ ¬ HasColumn result.columns name := by
  rw [column?, List.findIdx?_eq_none_iff]
  simp only [HasColumn, not_exists, not_and, Bool.not_eq_true]

theorem ResultSet.isSome_column?_iff {result : ResultSet} {name : String} :
    (result.column? name).isSome = true ↔ HasColumn result.columns name := by
  rw [Option.isSome_iff_ne_none, ne_eq, column?_eq_none_iff, not_not]

theorem ResultSet.column?_isSome {result : ResultSet} {name : String}
    (h : HasColumn result.columns name) : ∃ i, result.column? name = some i := by
  obtain ⟨c, hc, hsame⟩ := h
  refine Option.isSome_iff_exists.mp ?_
  rw [column?, List.findIdx?_isSome, List.any_eq_true]
  exact ⟨c, hc, hsame⟩

theorem hasColumn_iff {columns : List String} {name : String} :
    HasColumn columns name ↔ ∃ i, FirstColumn columns name i := by
  constructor
  · intro h
    obtain ⟨i, hi⟩ := @ResultSet.column?_isSome ⟨columns, []⟩ _ h
    exact ⟨i, ResultSet.column?_eq_some_iff.mp hi⟩
  · rintro ⟨i, ⟨c, hc, hnamed⟩, -⟩
    exact ⟨c, List.mem_of_getElem? hc, hnamed⟩

def valueIn (columns : List String) (row : List (Option Value)) (name : String) : Option Value :=
  (ResultSet.mk columns [row]).value? 0 name

theorem valueIn_cons (c : String) (columns : List String) (v : Option Value)
    (row : List (Option Value)) (name : String) :
    valueIn (c :: columns) (v :: row) name =
      if Text.sameLetters c name then v else valueIn columns row name := by
  simp only [valueIn, ResultSet.value?, ResultSet.column?, List.findIdx?_cons]
  by_cases h : Text.sameLetters c name = true
  · simp [h, ResultSet.cell]
  · simp only [h, Bool.false_eq_true, if_false, Option.bind_map]
    rfl

theorem valueIn_given {given : List (String × Option Value)}
    (h : (given.map Prod.fst).Pairwise fun a b => Text.sameLetters a b = false) :
    ∀ p ∈ given, valueIn (given.map Prod.fst) (given.map Prod.snd) p.1 = p.2 := by
  induction given with
  | nil =>
    intro p hp
    cases hp
  | cons q given ih =>
    obtain ⟨hq, hgiven⟩ := List.pairwise_cons.mp h
    intro p hp
    rw [List.map_cons, List.map_cons, valueIn_cons]
    rcases List.mem_cons.mp hp with rfl | hp
    · simp [Text.sameLetters]
    · rw [hq p.1 (List.mem_map_of_mem hp)]
      exact ih hgiven p hp

theorem valueIn_eq_cellAt {columns : List String} {row : List (Option Value)} {name : String}
    {i : Nat} (hi : FirstColumn columns name i) : valueIn columns row name = cellAt row i := by
  have hcolumn : (ResultSet.mk columns [row]).column? name = some i :=
    ResultSet.column?_eq_some_iff.mpr hi
  rw [valueIn, ResultSet.value?, hcolumn]
  simp [ResultSet.cell, cellAt]

namespace Value

variable {v : Value}

theorem integer?_eq_some_iff {n : Int} : v.integer? = some n ↔ v = .integer n := by
  cases v <;> simp [integer?]

theorem float?_eq_some_iff {x : Float} :
    v.float? = some x ↔ v = .float x ∨ ∃ n, v = .integer n ∧ x = Float.ofInt n := by
  cases v <;> simp [float?, eq_comm]

theorem text?_eq_some_iff {s : String} : v.text? = some s ↔ v = .text s := by
  cases v <;> simp [text?]

theorem integer?_eq_none_iff : v.integer? = none ↔ ¬ ∃ n, v = .integer n := by
  cases v <;> simp [integer?]

theorem float?_eq_none_iff :
    v.float? = none ↔ ¬ ((∃ x, v = .float x) ∨ ∃ n, v = .integer n) := by
  cases v <;> simp [float?]

theorem text?_eq_none_iff : v.text? = none ↔ ¬ ∃ s, v = .text s := by
  cases v <;> simp [text?]

/-- The text that is read where any value is taken: a text as it is, a number in decimal
notation, a truth value as a word, and a time to the second. -/
inductive ReadsAs : Value → String → Prop
  | text (s : String) : ReadsAs (.text s) s
  | integer (n : Int) : ReadsAs (.integer n) (toString n)
  | float (x : Float) : ReadsAs (.float x) (Layout.plain.write x)
  | yes : ReadsAs (.boolean true) "true"
  | no : ReadsAs (.boolean false) "false"
  | timestamp (t : Timestamp) : ReadsAs (.timestamp t) (t.date ++ " " ++ t.clock)

theorem readsAs_iff {s : String} : v.ReadsAs s ↔ s = v.display := by
  constructor
  · rintro (_ | _ | _ | _ | _ | _) <;> rfl
  · rintro rfl
    cases v with
    | integer n => exact .integer n
    | float x => exact .float x
    | text s => exact .text s
    | boolean b =>
      cases b with
      | false => exact .no
      | true => exact .yes
    | timestamp t => exact .timestamp t

end Value

inductive Format where
  | integer
  | integer32
  | number
  | text
  | anyText
  deriving DecidableEq, Repr

namespace Format

abbrev Content : Format → Type
  | integer | integer32 => Int
  | number => Float
  | text => String
  | anyText => Option String

def InRange (n : Int) : Prop :=
  -0x80000000 ≤ n ∧ n < 0x80000000

instance (n : Int) : Decidable (InRange n) :=
  inferInstanceAs (Decidable (_ ∧ _))

def Takes : (f : Format) → Option Value → f.Content → Prop
  | integer, cell, n => cell = some (.integer n)
  | integer32, cell, n => cell = some (.integer n) ∧ InRange n
  | number, cell, x =>
    cell = some (.float x) ∨ ∃ n, cell = some (.integer n) ∧ x = Float.ofInt n
  | text, cell, s => cell = some (.text s)
  | anyText, cell, s => Option.Rel Value.ReadsAs cell s

def Suits : Format → Value → Prop
  | integer, v | integer32, v => ∃ n, v = .integer n
  | number, v => (∃ x, v = .float x) ∨ ∃ n, v = .integer n
  | text, v => ∃ s, v = .text s
  | anyText, _ => True

/-- A cell that a format takes: it is not empty where a value is required, and
its value is of the right kind and in range. -/
structure Accepts (f : Format) (cell : Option Value) : Prop where
  present : f ≠ .anyText → cell ≠ none
  kind : ∀ v, cell = some v → f.Suits v
  range : f = .integer32 → ∀ n, cell = some (.integer n) → InRange n

def wanted : Format → String
  | integer | integer32 => "an integer"
  | number => "a number"
  | text => "text"
  | anyText => "any value"

inductive Refuses (column table : String) : Format → Option Value → Misconfiguration → Prop
  | empty {f : Format} (hf : f ≠ .anyText) : Refuses column table f none (.nullField column table)
  | kind {f : Format} {v : Value} (hv : ¬ f.Suits v) :
      Refuses column table f (some v) (.wrongType column table f.wanted v)
  | range {n : Int} (hn : ¬ InRange n) :
      Refuses column table .integer32 (some (.integer n)) (.outOfRange column table n)

def read : (f : Format) → Fields → String → Except Error f.Content
  | integer => Fields.integer
  | integer32 => Fields.integer32
  | number => Fields.float
  | text => Fields.text
  | anyText => Fields.optionalText

variable {f : Format} {cell : Option Value}

theorem anyText_takes_iff {s : Option String} :
    anyText.Takes cell s ↔ s = cell.map Value.display := by
  constructor
  · rintro (h | _)
    · rw [Value.readsAs_iff.mp h]
      rfl
    · rfl
  · rintro rfl
    cases cell with
    | none => exact .none
    | some v => exact .some (Value.readsAs_iff.mpr rfl)

theorem Takes.accepts {x : f.Content} (h : f.Takes cell x) : f.Accepts cell := by
  cases f with
  | integer =>
    obtain rfl : cell = some (.integer x) := h
    exact ⟨by simp, by simp [Suits], by simp⟩
  | integer32 =>
    obtain ⟨rfl, hrange⟩ := h
    exact ⟨by simp, by simp [Suits], by simpa using hrange⟩
  | number =>
    obtain rfl | ⟨n, rfl, -⟩ := h
    · exact ⟨by simp, by simp [Suits], by simp⟩
    · exact ⟨by simp, by simp [Suits], by simp⟩
  | text =>
    obtain rfl : cell = some (.text x) := h
    exact ⟨by simp, by simp [Suits], by simp⟩
  | anyText => exact ⟨by simp, by simp [Suits], by simp⟩

theorem exists_takes_of_suits {v : Value} (hv : f.Suits v)
    (hrange : f = .integer32 → ∀ n, v = .integer n → InRange n) : ∃ x, f.Takes (some v) x := by
  cases f with
  | integer =>
    obtain ⟨n, rfl⟩ := hv
    exact ⟨n, rfl⟩
  | integer32 =>
    obtain ⟨n, rfl⟩ := hv
    exact ⟨n, rfl, hrange rfl n rfl⟩
  | number =>
    obtain ⟨x, rfl⟩ | ⟨n, rfl⟩ := hv
    · exact ⟨x, Or.inl rfl⟩
    · exact ⟨_, Or.inr ⟨n, rfl, rfl⟩⟩
  | text =>
    obtain ⟨s, rfl⟩ := hv
    exact ⟨s, rfl⟩
  | anyText => exact ⟨_, anyText_takes_iff.mpr rfl⟩

theorem accepts_iff : f.Accepts cell ↔ ∃ x, f.Takes cell x := by
  constructor
  · rintro ⟨hpresent, hkind, hrange⟩
    cases cell with
    | none =>
      obtain rfl : f = .anyText := of_not_not fun hf => hpresent hf rfl
      exact ⟨none, .none⟩
    | some v =>
      refine exists_takes_of_suits (hkind v rfl) fun hf n hn => hrange hf n ?_
      rw [hn]
  · rintro ⟨x, hx⟩
    exact hx.accepts

section Read

variable {fields : Fields} {column : String}

section Typed

variable {α : Type} {expected : String} {take : Value → Option α}

theorem typed_of_none (h : fields.get column = .ok none) :
    fields.typed column expected take =
      .error (.configuration (.nullField column fields.table)) := by
  rw [Fields.typed, Fields.required, h]
  rfl

theorem typed_of_some {v : Value} (h : fields.get column = .ok (some v)) :
    fields.typed column expected take =
      match take v with
      | none => .error (.configuration (.wrongType column fields.table expected v))
      | some a => .ok a := by
  rw [Fields.typed, Fields.required, h]
  show (match take v with | none => _ | some a => _) = _
  cases take v <;> rfl

theorem typed_of_take_eq_none {v : Value} (h : fields.get column = .ok (some v))
    (htake : take v = none) :
    fields.typed column expected take =
      .error (.configuration (.wrongType column fields.table expected v)) := by
  rw [typed_of_some h, htake]

theorem typed_eq_ok_iff {a : α} (h : fields.get column = .ok cell) :
    fields.typed column expected take = .ok a ↔ ∃ v, cell = some v ∧ take v = some a := by
  cases cell with
  | none => simp [typed_of_none h]
  | some v =>
    rw [typed_of_some h]
    cases htake : take v <;> simp [htake]

end Typed

theorem integer_eq_ok_iff (h : fields.get column = .ok cell) {n : Int} :
    fields.integer column = .ok n ↔ cell = some (.integer n) := by
  rw [Fields.integer, typed_eq_ok_iff h]
  simp [Value.integer?_eq_some_iff]

theorem integer32_of_integer {n : Int} (h : fields.integer column = .ok n) :
    fields.integer32 column =
      if InRange n then .ok n else .error (.configuration (.outOfRange column fields.table n)) := by
  rw [Fields.integer32, h]
  rfl

theorem integer32_of_error {e : Error} (h : fields.integer column = .error e) :
    fields.integer32 column = .error e := by
  rw [Fields.integer32, h]
  rfl

theorem integer32_eq_ok_iff (h : fields.get column = .ok cell) {n : Int} :
    fields.integer32 column = .ok n ↔ cell = some (.integer n) ∧ InRange n := by
  rw [← integer_eq_ok_iff h]
  cases hn : fields.integer column with
  | error e => simp [integer32_of_error hn]
  | ok n' =>
    rw [integer32_of_integer hn]
    by_cases hrange : InRange n'
    · simp only [if_pos hrange, Except.ok.injEq, iff_self_and]
      rintro rfl
      exact hrange
    · simp only [if_neg hrange, reduceCtorEq, Except.ok.injEq, false_iff, not_and]
      rintro rfl
      exact hrange

theorem float_eq_ok_iff (h : fields.get column = .ok cell) {x : Float} :
    fields.float column = .ok x ↔
      cell = some (.float x) ∨ ∃ n, cell = some (.integer n) ∧ x = Float.ofInt n := by
  rw [Fields.float, typed_eq_ok_iff h]
  simp only [Value.float?_eq_some_iff]
  constructor
  · rintro ⟨v, rfl, rfl | ⟨n, rfl, rfl⟩⟩
    · exact Or.inl rfl
    · exact Or.inr ⟨n, rfl, rfl⟩
  · rintro (rfl | ⟨n, rfl, rfl⟩)
    · exact ⟨_, rfl, Or.inl rfl⟩
    · exact ⟨_, rfl, Or.inr ⟨n, rfl, rfl⟩⟩

theorem text_eq_ok_iff (h : fields.get column = .ok cell) {s : String} :
    fields.text column = .ok s ↔ cell = some (.text s) := by
  rw [Fields.text, typed_eq_ok_iff h]
  simp [Value.text?_eq_some_iff]

theorem optionalText_eq_ok_iff (h : fields.get column = .ok cell) {s : Option String} :
    fields.optionalText column = .ok s ↔ anyText.Takes cell s := by
  have hread : fields.optionalText column = .ok (cell.map Value.display) := by
    rw [Fields.optionalText, h]
    rfl
  rw [hread, Except.ok.injEq, anyText_takes_iff, eq_comm]

theorem read_eq_ok_iff (h : fields.get column = .ok cell) {x : f.Content} :
    f.read fields column = .ok x ↔ f.Takes cell x := by
  cases f with
  | integer => exact integer_eq_ok_iff h
  | integer32 => exact integer32_eq_ok_iff h
  | number => exact float_eq_ok_iff h
  | text => exact text_eq_ok_iff h
  | anyText => exact optionalText_eq_ok_iff h

theorem read_of_refuses {cause : Misconfiguration} (h : fields.get column = .ok cell)
    (hr : Refuses column fields.table f cell cause) :
    f.read fields column = .error (.configuration cause) := by
  cases hr with
  | empty hf =>
    cases f with
    | integer => exact typed_of_none h
    | integer32 => exact integer32_of_error (typed_of_none h)
    | number => exact typed_of_none h
    | text => exact typed_of_none h
    | anyText => exact absurd rfl hf
  | @kind f v hv =>
    cases f with
    | integer => exact typed_of_take_eq_none h (Value.integer?_eq_none_iff.mpr hv)
    | integer32 =>
      exact integer32_of_error (typed_of_take_eq_none h (Value.integer?_eq_none_iff.mpr hv))
    | number => exact typed_of_take_eq_none h (Value.float?_eq_none_iff.mpr hv)
    | text => exact typed_of_take_eq_none h (Value.text?_eq_none_iff.mpr hv)
    | anyText => exact absurd trivial hv
  | range hn =>
    show fields.integer32 column = _
    rw [integer32_of_integer ((integer_eq_ok_iff h).mpr rfl), if_neg hn]

end Read

theorem exists_refuses (column table : String) (h : ¬ f.Accepts cell) :
    ∃ cause, Refuses column table f cell cause := by
  cases cell with
  | none =>
    by_cases hf : f = .anyText
    · subst hf
      have haccepts : anyText.Accepts none := accepts_iff.mpr ⟨none, .none⟩
      exact absurd haccepts h
    · exact ⟨_, .empty hf⟩
  | some v =>
    by_cases hv : f.Suits v
    · have hrange : ¬ (f = .integer32 → ∀ n, some v = some (.integer n) → InRange n) := by
        intro hrange
        exact h ⟨by simp, by simpa using hv, hrange⟩
      simp only [Option.some.injEq, not_forall] at hrange
      obtain ⟨rfl, n, rfl, hn⟩ := hrange
      exact ⟨_, .range hn⟩
    · exact ⟨_, .kind hv⟩

end Format
end RunConditions
