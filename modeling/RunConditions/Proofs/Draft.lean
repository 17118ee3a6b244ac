import RunConditions.Config

/-!
# Steps of reading a configuration

What the start and the end of an element do to the draft, in all cases in which
they are accepted. Inside an element the draft has one more name on its path.
-/

set_option autoImplicit false

namespace RunConditions.Config.Draft
open Xml

def parts : List (String × String) :=
  [("tables", "table"), ("classes", "object"), ("classes", "collection"), ("fields", "field"),
   ("converters", "converter")]

inductive Started (d : Draft) (tag : Tag) : Draft → Prop
  | tables : tag.name = "tables" → Started d tag { d with tables := some (d.tables.getD []) }
  | converters : tag.name = "converters" →
      Started d tag { d with converters := some (d.converters.getD []) }
  | table {name key : String} : d.path.head? = some "tables" → tag.name = "table" →
      requiredAttribute tag "table" "name" = .ok name →
      requiredAttribute tag "table" "key" = .ok key →
      Started d tag { d with table := some { name, key } }
  | object {t : PartialTable} {value : String} : d.path.head? = some "classes" →
      tag.name = "object" → d.table = some t → requiredAttribute tag "object" "class" = .ok value →
      Started d tag { d with table := some { t with objectType := some value } }
  | collection {t : PartialTable} {value : String} : d.path.head? = some "classes" →
      tag.name = "collection" → d.table = some t →
      requiredAttribute tag "collection" "class" = .ok value →
      Started d tag { d with table := some { t with collectionType := some value } }
  | field {t : PartialTable} {value : String} : d.path.head? = some "fields" →
      tag.name = "field" → d.table = some t → requiredAttribute tag "field" "name" = .ok value →
      Started d tag { d with table := some { t with fields := t.fields ++ [value] } }
  | converter {value : String} : d.path.head? = some "converters" → tag.name = "converter" →
      requiredAttribute tag "converter" "class" = .ok value →
      Started d tag { d with converters := some (d.converters.getD [] ++ [value]) }
  | other : tag.name ≠ "tables" → tag.name ≠ "converters" →
      (∀ part ∈ parts, d.path.head? = some part.1 → tag.name ≠ part.2) → Started d tag d

inductive Finished (d : Draft) (element : String) : Draft → Prop
  | table {t : PartialTable} {described : TableDescriptor} : element = "table" →
      d.table = some t → t.finish = .ok described →
      Finished d element
        { d with tables := some (d.tables.getD [] ++ [described]), table := none }
  | other : (element = "table" → d.table = none) → Finished d element d

def inside (d : Draft) (element : String) : Draft :=
  { d with path := element :: d.path }

def Reads (d : Draft) (ts : List Token) (d' : Draft) : Prop :=
  ts.foldlM read d = .ok d'

section Steps

variable {d d' : Draft} {tag : Tag} {ts us : List Token} {name : String}

@[simp]
theorem inside_path (d : Draft) (name : String) : (d.inside name).path = name :: d.path := rfl

@[simp]
theorem inside_tables (d : Draft) (name : String) : (d.inside name).tables = d.tables := rfl

theorem bind_eq_ok_iff {α β : Type} {x : Except Error α} {f : α → Except Error β} {b : β} :
    x >>= f = .ok b ↔ ∃ a, x = .ok a ∧ f a = .ok b := by
  cases x with
  | error e => simp [bind, Except.bind]
  | ok a => simp [bind, Except.bind]

theorem inTable_eq_ok_iff {change : PartialTable → PartialTable} :
    d.inTable name change = .ok d' ↔
      ∃ t, d.table = some t ∧ { d with table := some (change t) } = d' := by
  unfold inTable
  cases d.table with
  | none => simp
  | some t => simp

theorem started_of_start (h : d.start tag = .ok d') : Started d tag d' := by
  unfold start at h
  split at h
  · rename_i hname
    cases h
    exact .tables hname
  · rename_i _ _ hpath hname
    obtain ⟨name, hn, h⟩ := bind_eq_ok_iff.mp h
    obtain ⟨key, hk, h⟩ := bind_eq_ok_iff.mp h
    cases h
    exact .table hpath hname hn hk
  · rename_i hpath hname
    obtain ⟨value, hv, h⟩ := bind_eq_ok_iff.mp h
    obtain ⟨t, ht, rfl⟩ := inTable_eq_ok_iff.mp h
    exact .object hpath hname ht hv
  · rename_i hpath hname
    obtain ⟨value, hv, h⟩ := bind_eq_ok_iff.mp h
    obtain ⟨t, ht, rfl⟩ := inTable_eq_ok_iff.mp h
    exact .collection hpath hname ht hv
  · rename_i hpath hname
    obtain ⟨value, hv, h⟩ := bind_eq_ok_iff.mp h
    obtain ⟨t, ht, rfl⟩ := inTable_eq_ok_iff.mp h
    exact .field hpath hname ht hv
  · rename_i hname
    cases h
    exact .converters hname
  · rename_i hpath hname
    obtain ⟨value, hv, h⟩ := bind_eq_ok_iff.mp h
    cases h
    exact .converter hpath hname hv
  · cases h
    refine .other (by assumption) (by assumption) ?_
    simp only [parts, List.forall_mem_cons]
    exact ⟨by assumption, by assumption, by assumption, by assumption, by assumption, by simp⟩

theorem Started.start (h : Started d tag d') : d.start tag = .ok d' := by
  cases h with
  | tables hname => simp only [Draft.start, hname]
  | converters hname => simp only [Draft.start, hname]
  | table hpath hname hn hk =>
    simp only [Draft.start, hpath, hname, hn, hk]
    rfl
  | object hpath hname ht hv =>
    simp only [Draft.start, hpath, hname, hv]
    exact inTable_eq_ok_iff.mpr ⟨_, ht, rfl⟩
  | collection hpath hname ht hv =>
    simp only [Draft.start, hpath, hname, hv]
    exact inTable_eq_ok_iff.mpr ⟨_, ht, rfl⟩
  | field hpath hname ht hv =>
    simp only [Draft.start, hpath, hname, hv]
    exact inTable_eq_ok_iff.mpr ⟨_, ht, rfl⟩
  | converter hpath hname hv =>
    simp only [Draft.start, hpath, hname, hv]
    rfl
  | other htables hconverters hparts =>
    simp only [parts, List.forall_mem_cons] at hparts
    unfold Draft.start
    split <;> simp_all

theorem start_eq_ok_iff : d.start tag = .ok d' ↔ Started d tag d' :=
  ⟨started_of_start, Started.start⟩

theorem Started.path (h : Started d tag d') : d'.path = d.path := by
  cases h <;> rfl

theorem finish_eq_ok_iff : d.finish name = .ok d' ↔ Finished d name d' := by
  constructor
  · intro h
    unfold finish at h
    split at h
    · rename_i t ht
      obtain ⟨described, hd, h⟩ := bind_eq_ok_iff.mp h
      cases h
      exact .table rfl ht hd
    · rename_i hother
      cases h
      refine .other fun hname => ?_
      cases ht : d.table with
      | none => rfl
      | some t => exact absurd ht (hother t hname)
  · intro h
    cases h with
    | table hname ht hd =>
      simp only [finish, hname, ht, hd]
      rfl
    | other hnone =>
      unfold finish
      split
      · rename_i t ht
        rw [hnone rfl] at ht
        cases ht
      · rfl

theorem Finished.path (h : Finished d name d') : d'.path = d.path := by
  cases h <;> rfl

theorem Finished.at_path (h : Finished d name d') (path : List String) :
    Finished { d with path } name { d' with path } := by
  cases h with
  | table hname ht hd => exact .table hname ht hd
  | other hnone => exact .other hnone

theorem read_opening_iff :
    d.read (.opening tag) = .ok d' ↔ ∃ d₁, Started d tag d₁ ∧ d₁.inside tag.name = d' := by
  simp only [read, bind_eq_ok_iff, start_eq_ok_iff, inside, pure, Except.pure, Except.ok.injEq]

theorem read_empty_iff :
    d.read (.empty tag) = .ok d' ↔ ∃ d₁, Started d tag d₁ ∧ Finished d₁ tag.name d' := by
  simp only [read, bind_eq_ok_iff, start_eq_ok_iff, finish_eq_ok_iff]

theorem read_closing_iff :
    d.read (.closing name) = .ok d' ↔ ∃ d₂, d = d₂.inside name ∧ Finished d₂ name d' := by
  constructor
  · intro h
    rw [read] at h
    split at h
    · cases h
    · rename_i element path hpath
      split at h
      · rename_i hname
        obtain ⟨e, he, h⟩ := bind_eq_ok_iff.mp h
        cases h
        refine ⟨{ d with path }, ?_, (finish_eq_ok_iff.mp he).at_path path⟩
        rw [inside, ← hname, ← hpath]
      · cases h
  · rintro ⟨d₂, rfl, h⟩
    simp only [read, inside_path, if_true, bind_eq_ok_iff, finish_eq_ok_iff]
    refine ⟨_, h.at_path (name :: d₂.path), ?_⟩
    rw [← h.path]
    rfl

theorem reads_nil_iff : Reads d [] d' ↔ d = d' := by
  simp [Reads, pure, Except.pure]

theorem reads_cons_iff {t : Token} :
    Reads d (t :: ts) d' ↔ ∃ d₁, d.read t = .ok d₁ ∧ Reads d₁ ts d' := by
  rw [Reads, List.foldlM_cons, bind_eq_ok_iff]
  rfl

theorem reads_append_iff : Reads d (ts ++ us) d' ↔ ∃ d₁, Reads d ts d₁ ∧ Reads d₁ us d' := by
  rw [Reads, List.foldlM_append, bind_eq_ok_iff]
  rfl

theorem reads_empty_iff :
    Reads d (.empty tag :: us) d' ↔
      ∃ d₁ d₂, Started d tag d₁ ∧ Finished d₁ tag.name d₂ ∧ Reads d₂ us d' := by
  rw [reads_cons_iff]
  simp only [read_empty_iff]
  grind

theorem reads_element_iff :
    Reads d (.opening tag :: (ts ++ .closing tag.name :: us)) d' ↔
      ∃ d₁ d₂ d₃, Started d tag d₁ ∧ Reads (d₁.inside tag.name) ts (d₂.inside tag.name) ∧
        Finished d₂ tag.name d₃ ∧ Reads d₃ us d' := by
  simp only [reads_cons_iff, reads_append_iff, read_opening_iff, read_closing_iff]
  grind

end Steps

end RunConditions.Config.Draft
