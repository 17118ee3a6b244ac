import Mathlib.Data.List.Basic
import RunConditions.Proofs.Alike
import RunConditions.Proofs.NamedTypes

/-!
# Converters of a configuration

Converters are loaded in the order in which they are named, up to the first
name that stands for none. For each kind the one that is named last counts.
-/

set_option autoImplicit false

namespace RunConditions

namespace Config

variable (types : Types)

def AllConverters (names : List String) : Prop :=
  ∀ name ∈ names, ∃ c, types.find? name = some (.converter c)

def NamesFor (name : String) (k : Kind) : Prop :=
  ∃ c, types.find? name = some (.converter c) ∧ c.output = k

/-- The converter is named, and no later name stands for one of its kind. -/
inductive LastNamed (k : Kind) (c : Converter) : List String → Prop
  | here {name : String} {rest : List String} (h : types.find? name = some (.converter c))
      (hk : c.output = k) (hrest : ∀ later ∈ rest, ¬ NamesFor types later k) :
      LastNamed k c (name :: rest)
  | there {name : String} {rest : List String} (h : LastNamed k c rest) :
      LastNamed k c (name :: rest)

variable {types} {names : List String}

theorem allConverters_nil : AllConverters types [] := by
  intro name hname
  cases hname

theorem allConverters_cons_iff {name : String} :
    AllConverters types (name :: names) ↔
      (∃ c, types.find? name = some (.converter c)) ∧ AllConverters types names :=
  List.forall_mem_cons

theorem namesFor_iff {name : String} {c : Converter}
    (h : types.find? name = some (.converter c)) {k : Kind} :
    NamesFor types name k ↔ c.output = k := by
  constructor
  · rintro ⟨c', hc', hk⟩
    rw [h, Option.some.injEq, Registered.converter.injEq] at hc'
    rw [hc', hk]
  · intro hk
    exact ⟨c, h, hk⟩

theorem lastNamed_cons_iff {name : String} {c : Converter}
    (h : types.find? name = some (.converter c)) {k : Kind} {c' : Converter} :
    LastNamed types k c' (name :: names) ↔
      LastNamed types k c' names ∨
        c = c' ∧ c.output = k ∧ ∀ later ∈ names, ¬ NamesFor types later k := by
  constructor
  · intro hlast
    cases hlast with
    | here hc' hk hnone =>
      rw [h, Option.some.injEq, Registered.converter.injEq] at hc'
      subst hc'
      exact Or.inr ⟨rfl, hk, hnone⟩
    | there hlast => exact Or.inl hlast
  · rintro (hlast | ⟨rfl, hk, hnone⟩)
    · exact .there hlast
    · exact .here h hk hnone

theorem exists_lastNamed_iff {k : Kind} :
    (∃ c, LastNamed types k c names) ↔ ∃ name ∈ names, NamesFor types name k := by
  constructor
  · rintro ⟨c, hlast⟩
    induction hlast with
    | @here name rest h hk _ => exact ⟨name, List.mem_cons_self, c, h, hk⟩
    | there _ ih =>
      obtain ⟨name, hmem, hname⟩ := ih
      exact ⟨name, List.mem_cons_of_mem _ hmem, hname⟩
  · intro h
    induction names with
    | nil =>
      obtain ⟨name, hmem, -⟩ := h
      cases hmem
    | cons first rest ih =>
      by_cases hrest : ∃ name ∈ rest, NamesFor types name k
      · obtain ⟨c, hlast⟩ := ih hrest
        exact ⟨c, .there hlast⟩
      · rw [List.exists_mem_cons_iff, or_iff_left hrest] at h
        obtain ⟨c, hc, hk⟩ := h
        exact ⟨c, .here hc hk fun later hmem hlater => hrest ⟨later, hmem, hlater⟩⟩

theorem allConverters_or_misnamed (types : Types) (names : List String) :
    AllConverters types names ∨ ∃ before name after e,
      names = before ++ name :: after ∧ AllConverters types before ∧
        types.Misnamed name .converter e := by
  induction names with
  | nil => exact Or.inl allConverters_nil
  | cons name rest ih =>
    rcases types.converter_or_misnamed name with hname | ⟨e, he⟩
    · rcases ih with hrest | ⟨before, name', after, e, rfl, hbefore, he⟩
      · exact Or.inl (allConverters_cons_iff.mpr ⟨hname, hrest⟩)
      · exact Or.inr ⟨name :: before, name', after, e, rfl,
          allConverters_cons_iff.mpr ⟨hname, hbefore⟩, he⟩
    · exact Or.inr ⟨[], name, rest, e, rfl, allConverters_nil, he⟩

end Config

namespace Converters

open Config (AllConverters NamesFor LastNamed)

variable {types : Types} {names : List String} {cs : Converters} {k : Kind} {c : Converter}

theorem find?_register (cs : Converters) (c : Converter) (k : Kind) :
    (cs.register c).find? k = if c.output = k then some c else cs.find? k := by
  rw [find?, register, List.find?_cons]
  by_cases hk : c.output = k
  · simp [hk]
  · simp only [beq_eq_false_iff_ne.mpr hk, if_neg hk, List.find?_filter, find?]
    congr 1
    funext d
    by_cases hd : d.output = k
    · simp [hd, Ne.symm hk]
    · simp [beq_eq_false_iff_ne.mpr hd]

theorem load_cons {name : String} (h : types.find? name = some (.converter c))
    (rest : List String) (cs : Converters) :
    load types (name :: rest) cs = load types rest (cs.register c) := by
  simp only [load, Types.converter_of_find? h, bind_apply, pure_apply, modify_apply]

theorem load_of_allConverters (h : AllConverters types names) (cs : Converters) :
    ∃ cs', load types names cs = .ok ⟨⟩ cs' ∧ ∀ k c, cs'.find? k = some c ↔
      LastNamed types k c names ∨
        cs.find? k = some c ∧ ∀ name ∈ names, ¬ NamesFor types name k := by
  induction names generalizing cs with
  | nil =>
    refine ⟨cs, rfl, fun k c => ?_⟩
    constructor
    · intro hc
      exact Or.inr ⟨hc, fun name hname => by cases hname⟩
    · rintro (hlast | ⟨hc, -⟩)
      · cases hlast
      · exact hc
  | cons name rest ih =>
    obtain ⟨⟨c₀, hname⟩, hrest⟩ := Config.allConverters_cons_iff.mp h
    obtain ⟨cs', hload, hfind⟩ := ih hrest (cs.register c₀)
    refine ⟨cs', by rw [load_cons hname, hload], fun k c => ?_⟩
    rw [hfind k c, find?_register, Config.lastNamed_cons_iff hname, List.forall_mem_cons,
      Config.namesFor_iff hname]
    -- What the rest names goes before the first converter, and that before what was there.
    by_cases hk : c₀.output = k
    · simp [hk]
    · simp [hk]

theorem load_of_misnamed {before after : List String} {name : String} {e : Error}
    (h : AllConverters types before) (hname : types.Misnamed name .converter e)
    (cs : Converters) :
    ∃ cs', load types (before ++ name :: after) cs = .error e cs' := by
  induction before generalizing cs with
  | nil =>
    refine ⟨cs, ?_⟩
    simp only [List.nil_append, load, hname.converter, bind_apply, throw_apply]
  | cons first rest ih =>
    obtain ⟨⟨c, hc⟩, hrest⟩ := Config.allConverters_cons_iff.mp h
    obtain ⟨cs', hload⟩ := ih hrest (cs.register c)
    refine ⟨cs', ?_⟩
    rw [List.cons_append, load_cons hc, hload]

end Converters

end RunConditions
