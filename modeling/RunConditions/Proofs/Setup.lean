import RunConditions.Proofs.Frame

/-!
# What a configuration sets up

Whatever is true of the converters that the known types name is true of the
converters of every configuration.
-/

set_option autoImplicit false

namespace RunConditions

namespace Types

theorem find?_mem {ts : Types} {name : String} {what : Registered}
    (h : ts.find? name = some what) : (name, what) ∈ ts.entries := by
  obtain ⟨l, r, he, -⟩ := List.lookup_eq_some_iff.mp h
  rw [he]
  simp

theorem find?_of_converter {ts : Types} {name : String} {c : Converter}
    (h : ts.converter name = .ok c) : ts.find? name = some (.converter c) := by
  simp only [converter, find] at h
  cases hf : ts.find? name with
  | none => simp [hf, bind, Except.bind] at h
  | some what =>
    cases what with
    | converter c' =>
      simp only [hf, bind, Except.bind, Except.ok.injEq] at h
      rw [h]
    | object r => simp [hf, bind, Except.bind] at h
    | collection r => simp [hf, bind, Except.bind] at h

theorem converter_mem {ts : Types} {name : String} {c : Converter}
    (h : ts.converter name = .ok c) : (name, .converter c) ∈ ts.entries :=
  find?_mem (find?_of_converter h)

end Types

namespace Converters

theorem mem_of_find? {cs : Converters} {k : Kind} {c : Converter} (h : cs.find? k = some c) :
    c ∈ cs.list ∧ c.output = k := by
  rw [find?] at h
  have hk := List.find?_some h
  exact ⟨List.mem_of_find?_eq_some h, by simpa using hk⟩

theorem mem_register {cs : Converters} {c d : Converter} (h : d ∈ (cs.register c).list) :
    d = c ∨ d ∈ cs.list := by
  rcases List.mem_cons.mp h with hd | hd
  · exact Or.inl hd
  · exact Or.inr (List.mem_filter.mp hd).1

theorem load_keeps {types : Types} {P : Converter → Prop}
    (h : ∀ name c, types.converter name = .ok c → P c) (names : List String) :
    Keeps (fun cs => ∀ c ∈ cs.list, P c) (load types names) := by
  induction names with
  | nil => exact fun _ hcs => hcs
  | cons name rest ih =>
    intro cs hcs
    cases hn : types.converter name with
    | error e =>
      simpa only [final, load, hn, bind_apply, throw_apply] using hcs
    | ok c =>
      have hreg : ∀ d ∈ (cs.register c).list, P d := by
        intro d hd
        rcases mem_register hd with rfl | hd
        · exact h name d hn
        · exact hcs d hd
      simpa only [final, load, hn, bind_apply, pure_apply, modify_apply] using ih _ hreg

end Converters

namespace Manager

theorem setup_eq_ok {types : Types} {config : Config} {s : Setup}
    (h : setup types config = .ok s) :
    Tables.load types config.tables = .ok s.tables ∧
      final (Converters.load types config.converters) (Converters.register {} .detector) =
        s.converters ∧
      s.converters.conditionsTable s.tables = .ok s.conditionsTable := by
  simp only [setup, bind, Except.bind] at h
  cases ht : Tables.load types config.tables with
  | error e => simp [ht] at h
  | ok tables =>
    simp only [ht] at h
    cases hl : Converters.load types config.converters (Converters.register {} .detector) with
    | error e cs => simp [hl] at h
    | ok u cs =>
      simp only [hl] at h
      cases hc : cs.conditionsTable tables with
      | error e => simp [hc] at h
      | ok name =>
        simp only [hc, pure, Except.pure, Except.ok.injEq] at h
        rw [← h]
        exact ⟨rfl, by rw [final, hl], hc⟩

theorem setup_converters {types : Types} {config : Config} {s : Setup} {P : Converter → Prop}
    (h : ∀ name c, types.converter name = .ok c → P c) (hd : P .detector)
    (hs : setup types config = .ok s) : ∀ c ∈ s.converters.list, P c := by
  rw [← (setup_eq_ok hs).2.1]
  refine Converters.load_keeps h config.converters _ fun c hc => ?_
  rcases Converters.mem_register hc with rfl | hc
  · exact hd
  · cases hc

end Manager
end RunConditions
