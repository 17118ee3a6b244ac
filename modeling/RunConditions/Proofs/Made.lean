import RunConditions.Proofs.Cache
import RunConditions.Proofs.Shipped

/-!
# What it takes to make data

A step succeeds only if each part of it does. For lookups and for the
converters that ship this says what they have looked up and selected when they
succeed, and that what a lookup brings is in the cache afterwards.
-/

set_option autoImplicit false

namespace RunConditions

section Succeeding

variable {σ α β : Type} {s t : σ}

theorem bind_apply_eq_ok {x : EStateM Error σ α} {f : α → EStateM Error σ β} {c : β}
    (h : (x >>= f) s = .ok c t) : ∃ a u, x s = .ok a u ∧ f a u = .ok c t := by
  rw [bind_apply] at h
  cases hx : x s with
  | error e u =>
    rw [hx] at h
    cases h
  | ok a u =>
    rw [hx] at h
    exact ⟨a, u, rfl, h⟩

theorem conclude_apply_eq_ok {r : Except Error α} {a : α}
    (h : (conclude r : EStateM Error σ α) s = .ok a t) : r = .ok a ∧ t = s := by
  cases r with
  | error e => cases h
  | ok a' =>
    cases h
    exact ⟨rfl, rfl⟩

theorem attempt_apply_eq_ok {x : EStateM Error σ α} {r : Except Error α}
    (h : attempt x s = .ok r t) : r = outcome x s ∧ t = final x s := by
  have houtcome := outcome_attempt x s
  have hfinal := final_attempt x s
  rw [outcome, h] at houtcome
  rw [final, h] at hfinal
  exact ⟨Except.ok.inj houtcome, hfinal⟩

end Succeeding

namespace Manager

variable {b : Backend} {m m' : Manager b} {look : (k : Kind) → String → Step b k.Data}

theorem materialize_eq_ok {k : Kind} {name : String} {data : k.Data}
    (h : materialize look k name m = .ok data m') :
    ∃ c payload made, m.converters.find? k = some c ∧
      carryOut look (c.plan name) m = .ok payload made ∧ payload.as? k = some data ∧
      m' = made.cached k name payload := by
  rw [materialize_apply] at h
  cases hc : m.converters.find? k with
  | none =>
    rw [hc] at h
    cases h
  | some c =>
    rw [hc] at h
    dsimp only at h
    cases hp : carryOut look (c.plan name) m with
    | error e made =>
      rw [hp] at h
      cases h
    | ok payload made =>
      rw [hp] at h
      dsimp only at h
      cases ha : payload.as? k with
      | none =>
        rw [ha] at h
        cases h
      | some found =>
        rw [ha] at h
        cases h
        exact ⟨c, payload, made, rfl, hp, ha, rfl⟩

theorem data?_cached (m : Manager b) (k : Kind) (name : String) (payload : Payload) :
    (m.cached k name payload).cache.data? k name = payload.as? k :=
  (Cache.data?_insert _ _ _ _).trans (if_pos (CacheEntry.isFor_iff.mpr ⟨rfl, rfl⟩))

theorem data?_of_lookup {depth : Nat} {k : Kind} {name : String} {data : k.Data}
    (h : lookup depth k name m = .ok data m') : m'.cache.data? k name = some data := by
  cases hdata : m.cache.data? k name with
  | some found =>
    rw [lookup_apply_of_cached hdata] at h
    cases h
    exact hdata
  | none =>
    cases depth with
    | zero =>
      simp only [lookup, bind_apply, get_apply, hdata, throw_apply] at h
      cases h
    | succ depth =>
      rw [lookup_apply_of_not_cached hdata] at h
      obtain ⟨c, payload, made, -, -, ha, rfl⟩ := materialize_eq_ok h
      rw [data?_cached, ha]

theorem carryOut_honest_eq_ok {k : Kind} {plan : String → Plan k.Data} {name : String}
    {payload : Payload} {data : k.Data}
    (h : carryOut look ((Converter.honest k plan).plan name) m = .ok payload m')
    (hdata : payload.as? k = some data) : carryOut look (plan name) m = .ok data m' := by
  rw [carryOut_honest] at h
  obtain ⟨made, t, hmade, hpayload⟩ := bind_apply_eq_ok h
  cases hpayload
  rw [Payload.as?_mk] at hdata
  cases hdata
  exact hmade

theorem readRecords_eq_ok {t : Table} {all : Collection Record}
    (h : readRecords t m = .ok all m') :
    ∃ result, select (Sql.Statement.selectAll t.name t.key).text m = .ok result m' ∧
      t.read .record result = .ok all := by
  obtain ⟨result, asked, hselect, hrest⟩ := bind_apply_eq_ok h
  obtain ⟨hread, rfl⟩ := conclude_apply_eq_ok hrest
  exact ⟨result, hselect, hread⟩

theorem carryOut_recordsPlan_eq_ok {all : Collection Record}
    (h : carryOut look Converter.recordsPlan m = .ok all m') :
    ∃ t, m.conditionsTable.bind m.tables.find? = some t ∧ readRecords t m = .ok all m' := by
  rw [carryOut_recordsPlan] at h
  cases htable : m.conditionsTable with
  | none =>
    rw [htable] at h
    cases h
  | some table =>
    rw [htable] at h
    dsimp only at h
    cases ht : m.tables.find? table with
    | none =>
      rw [ht] at h
      cases h
    | some t =>
      rw [ht] at h
      exact ⟨t, ht, h⟩

theorem carryOut_findRecords_eq_ok {name : String} {records : Collection Record}
    (h : carryOut look (Plan.findRecords name) m = .ok records m') :
    ∃ table all, m.conditionsTable = some table ∧ look .records table m = .ok all m' ∧
      records = all.named name := by
  rw [carryOut_findRecords] at h
  cases htable : m.conditionsTable with
  | none =>
    rw [htable] at h
    cases h
  | some table =>
    rw [htable] at h
    dsimp only at h
    cases hall : look .records table m with
    | error e t =>
      rw [hall] at h
      cases h
    | ok all t =>
      rw [hall] at h
      cases h
      exact ⟨table, all, rfl, hall, rfl⟩

theorem readSelected_eq_ok {c : CollectionType} {record : Record} {rows : Collection c.row.Row}
    (h : readSelected c record m = .ok rows m') :
    ∃ t result read, m.tables.find? record.table = some t ∧
      select (Sql.Statement.selectCollection t.name record.collection).text m = .ok result m' ∧
      t.read c.row result = .ok read ∧ rows = read.withId record.collection := by
  rw [readSelected, bind_apply, get_apply] at h
  dsimp only at h
  cases ht : m.tables.find? record.table with
  | none =>
    rw [ht] at h
    cases h
  | some t =>
    rw [ht] at h
    dsimp only at h
    by_cases hcollection : t.collection ≠ c
    · rw [if_pos hcollection] at h
      cases h
    · rw [if_neg hcollection] at h
      obtain ⟨result, asked, hselect, hrest⟩ := bind_apply_eq_ok h
      obtain ⟨read, done, hconclude, hrows⟩ := bind_apply_eq_ok hrest
      obtain ⟨hread, rfl⟩ := conclude_apply_eq_ok hconclude
      cases hrows
      exact ⟨t, result, read, rfl, hselect, hread, rfl⟩

theorem carryOut_selectedPlan_eq_ok {c : CollectionType} {name : String}
    {rows : Collection c.row.Row}
    (h : carryOut look (Converter.selectedPlan c name) m = .ok rows m') :
    ∃ records found record, carryOut look (Plan.findRecords name) m = .ok records found ∧
      (records.validFor m.run).latest? = some record ∧
      readSelected c record found = .ok rows m' := by
  rw [carryOut_selectedPlan] at h
  cases hfind : carryOut look (Plan.findRecords name) m with
  | error e found =>
    rw [hfind] at h
    cases h
  | ok records found =>
    rw [hfind] at h
    dsimp only at h
    cases hrecord : (records.validFor m.run).latest? with
    | none =>
      rw [hrecord] at h
      cases h
    | some record =>
      rw [hrecord] at h
      exact ⟨records, found, record, rfl, hrecord, h⟩

end Manager
end RunConditions
