import RunConditions.Manager.Cache

/-!
# What the cache holds

A new entry is found under its own kind and name, and every other entry is
found as before.
-/

set_option autoImplicit false

namespace RunConditions

theorem CacheEntry.isFor_iff {e : CacheEntry} {kind : Kind} {name : String} :
    e.isFor kind name = true ↔ e.kind = kind ∧ e.name = name := by
  simp [CacheEntry.isFor]

namespace Cache

variable {c : Cache} {e : CacheEntry} {kind : Kind} {name : String}

theorem mem_of_find? (h : c.find? kind name = some e) :
    e ∈ c.entries ∧ e.kind = kind ∧ e.name = name := by
  rw [find?] at h
  have hfor := List.find?_some h
  exact ⟨List.mem_of_find?_eq_some h, CacheEntry.isFor_iff.mp hfor⟩

theorem find?_insert_self (c : Cache) (e : CacheEntry) :
    (c.insert e).find? e.kind e.name = some e := by
  have h : e.isFor e.kind e.name = true := CacheEntry.isFor_iff.mpr ⟨rfl, rfl⟩
  simp only [find?, insert, List.find?_cons, h]

theorem find?_insert_of_ne (h : e.isFor kind name = false) :
    (c.insert e).find? kind name = c.find? kind name := by
  simp only [find?, insert, List.find?_cons, h, List.find?_filter]
  congr 1
  funext x
  cases hx : x.isFor kind name with
  | false => simp
  | true =>
    obtain ⟨rfl, rfl⟩ := CacheEntry.isFor_iff.mp hx
    have hne : x.isFor e.kind e.name = false := by
      cases hx' : x.isFor e.kind e.name with
      | false => rfl
      | true =>
        obtain ⟨hk, hn⟩ := CacheEntry.isFor_iff.mp hx'
        rw [← h, CacheEntry.isFor_iff.mpr ⟨hk.symm, hn.symm⟩]
    simp [hne]

theorem data?_insert (c : Cache) (e : CacheEntry) (kind : Kind) (name : String) :
    (c.insert e).data? kind name =
      if e.isFor kind name then e.payload.as? kind else c.data? kind name := by
  cases h : e.isFor kind name with
  | true =>
    obtain ⟨rfl, rfl⟩ := CacheEntry.isFor_iff.mp h
    rw [data?, find?_insert_self, if_pos rfl, Option.bind_some]
  | false => rw [data?, find?_insert_of_ne h, if_neg Bool.false_ne_true, data?]

theorem mem_insert {x : CacheEntry} (h : x ∈ (c.insert e).entries) : x = e ∨ x ∈ c.entries := by
  rcases List.mem_cons.mp h with rfl | hx
  · exact Or.inl rfl
  · exact Or.inr (List.mem_filter.mp hx).1

theorem mem_without {x : CacheEntry} (h : x ∈ (c.without kind).entries) :
    x ∈ c.entries ∧ x.kind ≠ kind := by
  simpa [without] using h

theorem data?_without_self (c : Cache) (kind : Kind) (name : String) :
    (c.without kind).data? kind name = none := by
  cases hf : (c.without kind).find? kind name with
  | none => rw [data?, hf, Option.bind_none]
  | some e =>
    obtain ⟨hmem, hkind, -⟩ := mem_of_find? hf
    exact absurd hkind (mem_without hmem).2

theorem data?_without_of_ne {kind' : Kind} (h : kind' ≠ kind) (c : Cache) (name : String) :
    (c.without kind).data? kind' name = c.data? kind' name := by
  simp only [data?, find?, without, List.find?_filter]
  congr 2
  funext e
  by_cases hfor : e.isFor kind' name = true
  · have hkind : e.kind ≠ kind := by
      rw [(CacheEntry.isFor_iff.mp hfor).1]
      exact h
    simp [hkind]
  · simp [hfor]

end Cache
end RunConditions
