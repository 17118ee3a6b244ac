import RunConditions.Record

/-!
# The record that counts

Among the records with a name whose range has a run in it, the one with the
greatest id counts, and the last one of those if several have it. The filters
of record collections find exactly this record.
-/

set_option autoImplicit false

namespace RunConditions

namespace Record

theorem latest?_eq_none_iff {records : List Record} : latest? records = none ↔ records = [] := by
  cases records with
  | nil => simp [latest?]
  | cons r rest =>
    simp only [latest?]
    cases latest? rest <;> simp

theorem exists_of_latest?_eq_some {records : List Record} {r : Record}
    (h : latest? records = some r) :
    ∃ before after, records = before ++ r :: after ∧
      (∀ s ∈ before, s.id ≤ r.id) ∧ ∀ s ∈ after, s.id < r.id := by
  induction records generalizing r with
  | nil => cases h
  | cons x rest ih =>
    rw [latest?] at h
    cases hl : latest? rest with
    | none =>
      simp only [hl, Option.some.injEq] at h
      obtain rfl := latest?_eq_none_iff.mp hl
      subst h
      exact ⟨[], [], rfl, by simp, by simp⟩
    | some best =>
      obtain ⟨before, after, rfl, hbefore, hafter⟩ := ih hl
      simp only [hl, Option.some.injEq] at h
      by_cases hlt : best.id < x.id
      · rw [if_pos hlt] at h
        subst h
        refine ⟨[], before ++ best :: after, rfl, by simp, fun s hs => ?_⟩
        rcases List.mem_append.mp hs with hs | hs
        · exact Int.lt_of_le_of_lt (hbefore s hs) hlt
        · rcases List.mem_cons.mp hs with rfl | hs
          · exact hlt
          · exact Int.lt_trans (hafter s hs) hlt
      · rw [if_neg hlt] at h
        subst h
        refine ⟨x :: before, after, rfl, fun s hs => ?_, hafter⟩
        rcases List.mem_cons.mp hs with rfl | hs
        · exact Int.not_lt.mp hlt
        · exact hbefore s hs

theorem latest?_append_cons {before after : List Record} {r : Record}
    (hbefore : ∀ s ∈ before, s.id ≤ r.id) (hafter : ∀ s ∈ after, s.id < r.id) :
    latest? (before ++ r :: after) = some r := by
  induction before with
  | nil =>
    rw [List.nil_append, latest?]
    cases hl : latest? after with
    | none => rfl
    | some best =>
      obtain ⟨_, _, rfl, -⟩ := exists_of_latest?_eq_some hl
      simp [hafter best (by simp)]
  | cons x rest ih =>
    have hrest := ih fun s hs => hbefore s (by simp [hs])
    have hx : ¬ r.id < x.id := Int.not_lt.mpr (hbefore x (by simp))
    rw [List.cons_append, latest?, hrest]
    simp [hx]

theorem latest?_eq_some_iff {records : List Record} {r : Record} :
    latest? records = some r ↔ ∃ before after, records = before ++ r :: after ∧
      (∀ s ∈ before, s.id ≤ r.id) ∧ ∀ s ∈ after, s.id < r.id := by
  constructor
  · exact exists_of_latest?_eq_some
  · rintro ⟨before, after, rfl, hbefore, hafter⟩
    exact latest?_append_cons hbefore hafter

/-- Whether the record has the name and its range of runs has the run in it. -/
def Matches (name : String) (run : Int) (r : Record) : Prop :=
  r.name = name ∧ r.runStart ≤ run ∧ run ≤ r.runEnd

theorem matches_iff {name : String} {run : Int} {r : Record} :
    (r.name == name && r.validFor run) = true ↔ r.Matches name run := by
  simp [Matches, validFor]

/-- The record matches, no matching record has a greater id, and it is the last
one with that id. -/
def Counts (records : List Record) (name : String) (run : Int) (r : Record) : Prop :=
  r.Matches name run ∧ ∃ before after, records = before ++ r :: after ∧
    (∀ s ∈ before, s.Matches name run → s.id ≤ r.id) ∧
    ∀ s ∈ after, s.Matches name run → s.id < r.id

end Record

namespace Collection

open Record (matches_iff)

variable {c : Collection Record} {name : String} {run : Int} {r : Record}

theorem rows_validFor_named (c : Collection Record) (name : String) (run : Int) :
    ((c.named name).validFor run).rows =
      c.rows.filter fun r => r.name == name && r.validFor run := by
  simp only [named, validFor, filter, List.filter_filter]
  congr 1
  funext r
  exact Bool.and_comm _ _

theorem latest?_eq_none_iff :
    ((c.named name).validFor run).latest? = none ↔ ∀ s ∈ c.rows, ¬ s.Matches name run := by
  rw [latest?, Record.latest?_eq_none_iff, rows_validFor_named, List.filter_eq_nil_iff]
  simp only [matches_iff]

theorem latest?_eq_some_iff :
    ((c.named name).validFor run).latest? = some r ↔ Record.Counts c.rows name run r := by
  rw [latest?, Record.latest?_eq_some_iff, rows_validFor_named]
  constructor
  · rintro ⟨l, l', hl, hbefore, hafter⟩
    obtain ⟨before, rest, hrows, rfl, hrest⟩ := List.filter_eq_append_iff.mp hl
    obtain ⟨skipped, after, rfl, hskipped, hr, rfl⟩ := List.filter_eq_cons_iff.mp hrest
    refine ⟨matches_iff.mp hr, before ++ skipped, after, by simp [hrows], fun s hs hm => ?_,
      fun s hs hm => hafter s (List.mem_filter.mpr ⟨hs, matches_iff.mpr hm⟩)⟩
    rcases List.mem_append.mp hs with hs | hs
    · exact hbefore s (List.mem_filter.mpr ⟨hs, matches_iff.mpr hm⟩)
    · exact absurd (matches_iff.mpr hm) (hskipped s hs)
  · rintro ⟨hr, before, after, hrows, hbefore, hafter⟩
    refine ⟨before.filter fun r => r.name == name && r.validFor run,
      after.filter fun r => r.name == name && r.validFor run, ?_, fun s hs => ?_, fun s hs => ?_⟩
    · have hpos := matches_iff.mpr hr
      simp only [hrows, List.filter_append, List.filter_cons, hpos, if_true]
    · exact hbefore s (List.mem_filter.mp hs).1 (matches_iff.mp (List.mem_filter.mp hs).2)
    · exact hafter s (List.mem_filter.mp hs).1 (matches_iff.mp (List.mem_filter.mp hs).2)

end Collection
end RunConditions
