import RunConditions.Proofs.Closing
import RunConditions.Proofs.Epoch
import RunConditions.Proofs.Made
import RunConditions.Proofs.Numbered
import RunConditions.Proofs.Superseded

/-!
# Data of the open database

What a lookup brings has either been in the cache at an earlier moment or been
read since then. A connection that is closed leaves the cache as it is, so that
data read over it are found in the cache even when another database is open.
-/

set_option autoImplicit false

namespace RunConditions

variable {b : Backend}

namespace Link

/-- An exchange has come since an earlier state of the link, and over a connection
that had not been closed then. -/
structure NewSince (l l' : Link b.numbered) (x : Exchange) : Prop where
  added : ∃ later, l'.ledger.exchanges = l.ledger.exchanges ++ later ∧ x ∈ later
  notClosed : x.connection ∉ l.ledger.closed
  between : l.Between l' x

variable {l l' l'' : Link b.numbered} {x : Exchange}

theorem NewSince.connection_eq (h : l.NewSince l' x) (hone : l'.ledger.opened = l.number + 1) :
    x.connection = l.number := by
  have hbetween := h.between
  rw [Between, hone] at hbetween
  exact Nat.le_antisymm (Nat.le_of_lt_succ hbetween.2) hbetween.1

theorem NewSince.mono (h : l.NewSince l' x) (hl : l'.Leads l'') : l.NewSince l'' x where
  added := by
    obtain ⟨later, hgrown, hx⟩ := h.added
    obtain ⟨later', hgrown', -⟩ := hl.grown
    exact ⟨later ++ later', by rw [hgrown', hgrown, List.append_assoc],
      List.mem_append_left _ hx⟩
  notClosed := h.notClosed
  between := ⟨h.between.1, Nat.lt_of_lt_of_le h.between.2 hl.opened⟩

theorem Leads.newSince (hn : l.Numbered) (hl : l.Leads l') (hl' : l'.Leads l'')
    (h : ∃ later, l''.ledger.exchanges = l'.ledger.exchanges ++ later ∧ x ∈ later) :
    l.NewSince l'' x := by
  obtain ⟨later, hgrown, hx⟩ := h
  obtain ⟨before, hbefore, -⟩ := hl.grown
  obtain ⟨later', hgrown', hbetween⟩ := hl'.grown
  obtain rfl := List.append_cancel_left (hgrown.symm.trans hgrown')
  have hnumber := Nat.le_trans hl.number (hbetween x hx).1
  refine ⟨⟨before ++ later, ?_, List.mem_append_right _ hx⟩, ?_, hnumber, (hbetween x hx).2⟩
  · rw [hgrown, hbefore, List.append_assoc]
  · intro hclosed
    exact Nat.not_lt_of_le hnumber (hn.closed _ hclosed)

end Link

namespace Manager

variable {α : Type} {start m m' : Manager b.numbered}

/-- This question has had this answer since an earlier moment, over a connection
that had not been closed then. If only one connection has been there since, it is
that one. -/
def ReadSince (start m : Manager b.numbered) (sql : String) (result : ResultSet) : Prop :=
  ∃ n, start.link.NewSince m.link (.selected n sql (.ok result)) ∧
    (m.link.ledger.opened = start.link.number + 1 → n = start.link.number)

def RecordsReadSince (start m : Manager b.numbered) (all : Collection Record) : Prop :=
  ∃ t result, (m.conditionsTable.bind m.tables.find?) = some t ∧
    ReadSince start m (Sql.Statement.selectAll t.name t.key).text result ∧
    t.read .record result = .ok all

def RecordsKnown (start m : Manager b.numbered) (table : String) (all : Collection Record) : Prop :=
  start.cache.data? .records table = some all ∨ RecordsReadSince start m all

def RowsReadSince (start m : Manager b.numbered) (c : CollectionType) (name : String)
    (rows : Collection c.row.Row) : Prop :=
  ∃ table all record t result read, m.conditionsTable = some table ∧
    RecordsKnown start m table all ∧
    ((all.named name).validFor m.run).latest? = some record ∧
    m.tables.find? record.table = some t ∧
    ReadSince start m (Sql.Statement.selectCollection t.name record.collection).text result ∧
    t.read c.row result = .ok read ∧ rows = read.withId record.collection

/-- Data that converters bring from the database have been read since. -/
def DataReadSince (start m : Manager b.numbered) : (k : Kind) → String → k.Data → Prop
  | .collection .record, _, all => RecordsReadSince start m all
  | .collection (.channel t), name, rows => RowsReadSince start m (.channel t) name rows
  | .collection (.own q r), name, rows => RowsReadSince start m (.own q r) name rows
  | .detector, _, _ => True
  | .text, _, _ => True

def Ships (m : Manager b) (k : Kind) : Prop :=
  m.converters.find? .records = some .records ∧ m.converters.find? k = Converter.shipped k

structure SameSetup (m₀ m : Manager b) : Prop where
  tables : m.tables = m₀.tables
  converters : m.converters = m₀.converters
  conditionsTable : m.conditionsTable = m₀.conditionsTable
  run : m.run = m₀.run

theorem SameSetup.symm {m m' : Manager b} (h : SameSetup m m') : SameSetup m' m :=
  ⟨h.tables.symm, h.converters.symm, h.conditionsTable.symm, h.run.symm⟩

theorem SameSetup.trans {m m' m'' : Manager b} (h : SameSetup m m') (h' : SameSetup m' m'') :
    SameSetup m m'' :=
  ⟨h'.tables.trans h.tables, h'.converters.trans h.converters,
    h'.conditionsTable.trans h.conditionsTable, h'.run.trans h.run⟩

theorem ReadSince.mono {sql : String} {result : ResultSet} (h : ReadSince start m sql result)
    (hl : m.link.Leads m'.link) : ReadSince start m' sql result := by
  obtain ⟨n, hn, -⟩ := h
  exact ⟨n, hn.mono hl, (hn.mono hl).connection_eq⟩

section Mono

variable (hl : m.link.Leads m'.link) (hs : SameSetup m m')
include hl hs

theorem RecordsReadSince.mono {all : Collection Record} (h : RecordsReadSince start m all) :
    RecordsReadSince start m' all := by
  obtain ⟨t, result, ht, hread, hall⟩ := h
  refine ⟨t, result, ?_, hread.mono hl, hall⟩
  rw [hs.conditionsTable, hs.tables]
  exact ht

theorem RecordsKnown.mono {table : String} {all : Collection Record}
    (h : RecordsKnown start m table all) : RecordsKnown start m' table all :=
  h.imp id fun h => h.mono hl hs

theorem RowsReadSince.mono {c : CollectionType} {name : String} {rows : Collection c.row.Row}
    (h : RowsReadSince start m c name rows) : RowsReadSince start m' c name rows := by
  obtain ⟨table, all, record, t, result, read, htable, hall, hrecord, ht, hread, hrows⟩ := h
  refine ⟨table, all, record, t, result, read, ?_, hall.mono hl hs, ?_, ?_, hread.mono hl, hrows⟩
  · rw [hs.conditionsTable, htable]
  · rw [hs.run, hrecord]
  · rw [hs.tables, ht]

theorem DataReadSince.mono {k : Kind} {name : String} {data : k.Data}
    (h : DataReadSince start m k name data) : DataReadSince start m' k name data := by
  cases k with
  | detector => exact trivial
  | text => exact trivial
  | collection r =>
    cases r with
    | record => exact RecordsReadSince.mono hl hs h
    | channel t => exact RowsReadSince.mono hl hs h
    | own q r => exact RowsReadSince.mono hl hs h

end Mono

theorem RecordsKnown.onLink {table : String} {all : Collection Record}
    {x : EStateM Error (Link b.numbered) α} (h : RecordsKnown start m table all)
    (hl : m.link.Leads (final x m.link)) :
    RecordsKnown start (final (Manager.onLink x) m) table all := by
  have hleads : m.link.Leads (final (Manager.onLink x) m).link := by
    rw [final_onLink]
    exact hl
  have hsame : SameSetup m (final (Manager.onLink x) m) := by
    rw [final_onLink]
    exact ⟨rfl, rfl, rfl, rfl⟩
  exact h.mono hleads hsame

/-- Whatever is cached was cached at an earlier moment or has been read since. -/
structure Sourced (start m : Manager b.numbered) : Prop where
  leads : start.link.Leads m.link
  data : ∀ k name data, m.Ships k → m.cache.data? k name = some data →
    start.cache.data? k name = some data ∨ DataReadSince start m k name data

theorem Sourced.refl (hn : start.link.Numbered) : Sourced start start where
  leads := .refl hn
  data _ _ _ _ hdata := Or.inl hdata

theorem Sourced.of_cache (h : Sourced start m) (hl : m.link.Leads m'.link) (hs : SameSetup m m')
    (hcache : ∀ k name data, m'.cache.data? k name = some data →
      m.cache.data? k name = some data) : Sourced start m' where
  leads := h.leads.trans hl
  data k name data hships hdata := by
    have hships' : m.Ships k := by rwa [Ships, hs.converters] at hships
    exact (h.data k name data hships' (hcache k name data hdata)).imp id fun h => h.mono hl hs

theorem Sourced.of_empty (hl : start.link.Leads m.link) (hcache : m.cache = {}) :
    Sourced start m where
  leads := hl
  data k name data _ hdata := by
    rw [hcache] at hdata
    cases hdata

theorem onLink_sourced {x : EStateM Error (Link b.numbered) α}
    (hx : ∀ l : Link b.numbered, l.Numbered → l.Leads (final x l)) :
    Keeps (Sourced start) (onLink x) := by
  intro m hm
  rw [final_onLink]
  exact hm.of_cache (hx m.link hm.leads.numbered) ⟨rfl, rfl, rfl, rfl⟩ fun _ _ _ h => h

theorem sourced_held (start : Manager b.numbered) : Held (Sourced start) where
  connect := onLink_sourced fun _ => Link.leads_connect
  disconnect openedHere := onLink_sourced fun _ hn => Link.leads_disconnect hn openedHere
  forceDisconnect := onLink_sourced fun _ => Link.leads_forceDisconnect
  setParameters p := onLink_sourced fun _ hn => Link.leads_setParameters hn p
  select sql := onLink_sourced fun _ hn => Link.leads_select hn sql
  update sql := onLink_sourced fun _ hn => Link.leads_update hn sql
  reader m r hm := hm.of_cache (.refl hm.leads.numbered) ⟨rfl, rfl, rfl, rfl⟩ fun _ _ _ h => h
  shared m hm := hm.of_cache (.refl hm.leads.numbered) ⟨rfl, rfl, rfl, rfl⟩ fun _ _ _ h => h
  withoutRecords m hm := by
    apply Sourced.of_cache hm
    · exact .refl hm.leads.numbered
    · exact ⟨rfl, rfl, rfl, rfl⟩
    · intro k name data hdata
      by_cases hk : k = .records
      · subst hk
        cases (Cache.data?_without_self m.cache .records name).symm.trans hdata
      · exact (Cache.data?_without_of_ne hk m.cache name).symm.trans hdata
  setUp m config s hm _ := .of_empty hm.leads rfl
  switched m detector run hm := .of_empty hm.leads rfl

theorem sameSetup_abreast (m₀ : Manager b) : Abreast (Both (SameSetup m₀)) := by
  have honLink : ∀ {α : Type} (x : EStateM Error (Link b) α), Keeps (SameSetup m₀) (onLink x) := by
    intro α x m hm
    rw [final_onLink]
    exact ⟨hm.tables, hm.converters, hm.conditionsTable, hm.run⟩
  exact {
    view := by
      rintro m _ ⟨rfl, -⟩
      rfl
    reader := by
      rintro m _ ⟨rfl, -⟩
      rfl
    connect := (honLink _).alike
    disconnect := fun _ => (honLink _).alike
    forceDisconnect := (honLink _).alike
    setParameters := fun _ => (honLink _).alike
    select := fun _ => (honLink _).alike
    update := fun _ => (honLink _).alike
    readingBy := by
      rintro m _ reader ⟨rfl, hm⟩
      exact ⟨rfl, hm.tables, hm.converters, hm.conditionsTable, hm.run⟩
    withoutRecords := by
      rintro m _ ⟨rfl, hm⟩
      exact ⟨rfl, hm.tables, hm.converters, hm.conditionsTable, hm.run⟩ }

theorem lookup_sameSetup (m₀ : Manager b) (depth : Nat) (k : Kind) (name : String) :
    Alike (Both (SameSetup m₀)) (lookup depth k name) (lookup depth k name) := by
  apply lookup_both
  intro depth k name hlook
  apply materialize_both
  · intro m c _ _
    exact carryOut_alike ((sameSetup_abreast m₀).perform_alike hlook) (c.plan name)
  · intro _ m c payload _ _ _ hm _
    exact ⟨hm.tables, hm.converters, hm.conditionsTable, hm.run⟩

theorem carryOut_sameSetup {m m' : Manager b} {depth : Nat} {p : Plan α} {a : α}
    (h : carryOut (lookup depth) p m = .ok a m') : SameSetup m m' := by
  have hperform := (sameSetup_abreast m).perform_alike (lookup_sameSetup m depth)
  have hkeeps := (carryOut_alike hperform p).keeps m ⟨rfl, rfl, rfl, rfl⟩
  rwa [final, h] at hkeeps

theorem readSince_of_select (hn : start.link.Numbered) (hl : start.link.Leads m.link) {sql : String}
    {result : ResultSet} (h : select sql m = .ok result m') :
    m.link.Leads m'.link ∧ ReadSince start m' sql result := by
  have hm' : m' = { m with link := final (Link.select sql) m.link } := by
    have hfinal := final_onLink (Link.select sql) m
    rw [final, ← select, h] at hfinal
    exact hfinal
  have hleads : m.link.Leads m'.link := by
    rw [hm']
    exact Link.leads_select hl.numbered sql
  cases hc : m.isConnected with
  | false =>
    rw [select_apply_of_not_connected hc] at h
    cases h
  | true =>
    obtain ⟨handle, hh, ho⟩ := Link.isConnected_eq_true.mp hc
    rw [select_apply hh ho] at h
    cases hanswer : (b.select handle.1 sql m.link.world.1).1 with
    | error e =>
      simp only [Backend.numbered, hanswer] at h
      cases h
    | ok rows =>
      simp only [Backend.numbered, hanswer] at h
      cases h
      have hnew := hl.newSince hn hleads ⟨_, rfl, List.mem_singleton_self _⟩
      exact ⟨hleads, handle.2, hnew, hnew.connection_eq⟩

section Made

variable {look : (k : Kind) → String → Step b.numbered k.Data} {depth : Nat}

theorem recordsReadSince_of_plan (hn : start.link.Numbered) (hm : Sourced start m)
    (hs : SameSetup m m') {all : Collection Record}
    (h : carryOut look Converter.recordsPlan m = .ok all m') : RecordsReadSince start m' all := by
  obtain ⟨t, ht, hread⟩ := carryOut_recordsPlan_eq_ok h
  obtain ⟨result, hselect, hall⟩ := readRecords_eq_ok hread
  refine ⟨t, result, ?_, (readSince_of_select hn hm.leads hselect).2, hall⟩
  rw [hs.conditionsTable, hs.tables, ht]

theorem rowsReadSince_of_plan (hn : start.link.Numbered) (hm : Sourced start m)
    (hrecords : m.converters.find? .records = some .records)
    (hlook : ∀ k name, Keeps (Sourced start) (lookup depth k name)) {c : CollectionType}
    {name : String} {rows : Collection c.row.Row}
    (h : carryOut (lookup depth) (Converter.selectedPlan c name) m = .ok rows m') :
    RowsReadSince start m' c name rows := by
  have hsetup := carryOut_sameSetup h
  obtain ⟨records, t, record, hfind, hrecord, hrows⟩ := carryOut_selectedPlan_eq_ok h
  obtain ⟨table, all, htable, hall, rfl⟩ := carryOut_findRecords_eq_ok hfind
  have hbefore := carryOut_sameSetup hfind
  have hafter : SameSetup t m' := hbefore.symm.trans hsetup
  have ht : Sourced start t := by
    have hkeeps := hlook .records table m hm
    rwa [final, hall] at hkeeps
  have hships : t.Ships .records := by
    rw [Ships, hbefore.converters]
    exact ⟨hrecords, hrecords⟩
  have hknown : RecordsKnown start t table all :=
    ht.data .records table all hships (data?_of_lookup hall)
  obtain ⟨u, result, read, hu, hselect, hread, hwithId⟩ := readSelected_eq_ok hrows
  obtain ⟨hleads, hsince⟩ := readSince_of_select hn ht.leads hselect
  refine ⟨table, all, record, u, result, read, ?_, hknown.mono hleads hafter, ?_, ?_, hsince,
    hread, hwithId⟩
  · rw [hsetup.conditionsTable, htable]
  · rw [hsetup.run, hrecord]
  · rw [hafter.tables, hu]

/-- What a converter that ships makes has been read since. -/
theorem dataReadSince_of_plan (hn : start.link.Numbered) (hm : Sourced start m)
    (hlook : ∀ k name, Keeps (Sourced start) (lookup depth k name)) {k : Kind} {name : String}
    {c : Converter} {payload : Payload} {data : k.Data} (hships : m.Ships k)
    (hc : m.converters.find? k = some c)
    (h : carryOut (lookup depth) (c.plan name) m = .ok payload m')
    (hdata : payload.as? k = some data) : DataReadSince start m' k name data := by
  have hshipped : Converter.shipped k = some c := hships.2.symm.trans hc
  cases k with
  | detector => exact trivial
  | text => exact trivial
  | collection r =>
    cases r with
    | record =>
      cases hshipped
      exact recordsReadSince_of_plan hn hm (carryOut_sameSetup h) (carryOut_honest_eq_ok h hdata)
    | channel t =>
      cases hshipped
      exact rowsReadSince_of_plan hn hm hships.1 hlook (carryOut_honest_eq_ok h hdata)
    | own q r =>
      cases hshipped
      exact rowsReadSince_of_plan hn hm hships.1 hlook (carryOut_honest_eq_ok h hdata)

end Made

theorem lookup_sourced (hn : start.link.Numbered) (depth : Nat) (k : Kind) (name : String) :
    Alike (Both (Sourced start)) (lookup depth k name) (lookup depth k name) := by
  apply lookup_both
  intro depth k name hlook
  apply materialize_both
  · intro m c _ _
    exact carryOut_alike ((sourced_held start).perform_alike hlook) (c.plan name)
  · intro m m' c payload hm hc hp hm' _
    have hsetup := carryOut_sameSetup hp
    have hleads : m'.link.Leads (m'.cached k name payload).link := .refl hm'.leads.numbered
    have hsame : SameSetup m' (m'.cached k name payload) := ⟨rfl, rfl, rfl, rfl⟩
    refine ⟨hm'.leads, fun k' name' data hships hdata => ?_⟩
    -- Either the entry is the one that has just been made, or it has been there before.
    rw [show (m'.cached k name payload).cache.data? k' name' = _ from
      Cache.data?_insert _ _ _ _] at hdata
    split at hdata
    · rename_i hfor
      obtain ⟨rfl, rfl⟩ := CacheEntry.isFor_iff.mp hfor
      have hships' : m.Ships k := by rwa [Ships, ← hsetup.converters]
      have hkeeps := fun k name => (hlook k name).keeps
      have hmade := dataReadSince_of_plan hn hm hkeeps hships' hc hp hdata
      exact Or.inr (hmade.mono hleads hsame)
    · exact (hm'.data k' name' data hships hdata).imp id fun h => h.mono hleads hsame

theorem action_sourced (hn : start.link.Numbered) (x : Action) : Keeps (Sourced start) x.run :=
  ((sourced_held start).parallel.action_alike (lookup_sourced hn nestingLimit) x).keeps

theorem Sourced.through (hn : start.link.Numbered) (h : Sourced start m) (turns : List (Turn b)) :
    Sourced start (through turns m) := by
  induction turns generalizing m with
  | nil => exact h
  | cons turn turns ih =>
    cases turn with
    | act x => exact ih (action_sourced hn x m h)
    | drift world =>
      apply ih
      apply Sourced.of_cache h
      · exact .of_ledger_eq h.leads.numbered rfl rfl
      · exact ⟨rfl, rfl, rfl, rfl⟩
      · exact fun _ _ _ hdata => hdata

theorem numbered_through (types : Types) (reader : Reader) (world : b.World)
    (turns : List (Turn b)) : (through turns (begin types reader world)).link.Numbered := by
  have hn : (begin types reader world).link.Numbered := by
    constructor
    · intro h hh
      cases hh
    · intro n hn
      cases hn
  exact ((Sourced.refl hn).through hn turns).leads.numbered

theorem Sourced.getConditions (hn : start.link.Numbered) (hm : Sourced start m) {k : Kind}
    {name : String} {data : k.Data} (hships : m.Ships k)
    (h : outcome (getConditions k name) m = .ok data) :
    start.cache.data? k name = some data ∨
      DataReadSince start (final (Manager.getConditions k name) m) k name data := by
  have hdone := (lookup_sourced hn nestingLimit k name).keeps m hm
  apply hdone.data k name data
  · have hsetup := (lookup_sameSetup m nestingLimit k name).keeps m ⟨rfl, rfl, rfl, rfl⟩
    rwa [Ships, hsetup.converters]
  · exact data?_of_lookup (apply_eq_ok h)

theorem Sourced.findRecords (hn : start.link.Numbered) (hm : Sourced start m) {name : String}
    {found : Collection Record} (hships : m.Ships .records)
    (h : outcome (findRecords name) m = .ok found) :
    ∃ table all, m.conditionsTable = some table ∧ found = all.named name ∧
      RecordsKnown start (final (Manager.findRecords name) m) table all := by
  obtain ⟨table, all, htable, hall, hfound⟩ := carryOut_findRecords_eq_ok (apply_eq_ok h)
  have hlook : outcome (Manager.getConditions .records table) m = .ok all := by rw [outcome, hall]
  have hknown := hm.getConditions hn hships hlook
  rw [final, hall] at hknown
  exact ⟨table, all, htable, hfound, hknown⟩

end Manager

namespace CommandLine
open Manager

variable {α : Type} {start m : Manager b.numbered}

def PrintArguments.shown (a : PrintArguments) (found : Collection Record) : Collection Record :=
  match a.run with
  | some run => found.validFor run
  | none => found

/-- What it takes for a body between opening and closing to succeed. -/
theorem connected_eq_ok {m : Manager b} {body : Step b α} {a : α}
    (h : outcome (connected body) m = .ok a) :
    ∃ openedHere begun, connect m = .ok openedHere begun ∧ outcome body begun = .ok a ∧
      final (connected body) m = final (disconnect openedHere) (final body begun) := by
  obtain ⟨openedHere, begun, hconnect, hrest⟩ := bind_apply_eq_ok (apply_eq_ok h)
  obtain ⟨worked, done, hbody, hrest⟩ := bind_apply_eq_ok hrest
  obtain ⟨closed, shut, hdisconnect, hrest⟩ := bind_apply_eq_ok hrest
  obtain ⟨hworked, rfl⟩ := attempt_apply_eq_ok hbody
  obtain ⟨-, rfl⟩ := attempt_apply_eq_ok hdisconnect
  refine ⟨openedHere, begun, hconnect, ?_⟩
  cases worked with
  | error e => cases closed <;> cases hrest
  | ok found =>
    cases closed with
    | error e => cases hrest
    | ok _ =>
      injection hrest with hfound hshut
      exact ⟨by rw [← hworked, hfound], hshut.symm⟩

theorem print_recordsKnown (hn : start.link.Numbered) (hm : Sourced start m) {a : PrintArguments}
    {shown : Collection Record} (hships : m.Ships .records)
    (h : outcome (print a) m = .ok shown) :
    ∃ table all, m.conditionsTable = some table ∧ shown = a.shown (all.named a.name) ∧
      RecordsKnown start (final (print a) m) table all := by
  obtain ⟨found, hfound, hshown⟩ := outcome_bind_eq_ok h
  obtain ⟨openedHere, begun, hconnect, hfind, hfinal⟩ := connected_eq_ok hfound
  have hbegun : begun = { m with link := final Link.connect m.link } := by
    have hc := final_onLink Link.connect m
    rw [final, ← connect, hconnect] at hc
    exact hc
  have hsourced : Sourced start begun := by
    have hkeeps := (sourced_held start).connect m hm
    rwa [final, hconnect] at hkeeps
  have hships' : begun.Ships .records := by
    rw [hbegun]
    exact hships
  obtain ⟨table, all, htable, hnamed, hknown⟩ := hsourced.findRecords hn hships' hfind
  refine ⟨table, all, ?_, ?_, ?_⟩
  · rw [hbegun] at htable
    exact htable
  · cases hshown
    rw [← hnamed]
    rfl
  · have hdone := action_sourced hn (.call (.findRecords a.name)) begun hsourced
    have hlast : final (print a) m =
        final (disconnect openedHere) (final (findRecords a.name) begun) :=
      (final_bind_of_ok hfound).trans hfinal
    rw [hlast]
    exact hknown.onLink (Link.leads_disconnect hdone.leads.numbered openedHere)

end CommandLine

namespace Manager

/-- At each moment of a run, whatever lookups, searches and prints bring later has
been in the cache or has been read since over a connection that had not been closed
by then. Nothing is in the cache once a configuration has been taken or the detector
and run have been switched, and no records are once one has been added. -/
theorem brought_from_cache_or_read (types : Types) (reader : Reader) (world : b.World)
    (before since : List (Turn b)) :
    let start := through before (begin types reader world)
    let m := through since start
    (∀ k name data, m.Ships k → outcome (getConditions k name) m = .ok data →
      start.cache.data? k name = some data ∨
        DataReadSince start (final (getConditions k name) m) k name data) ∧
    (∀ name found, m.Ships .records → outcome (findRecords name) m = .ok found →
      ∃ table all, m.conditionsTable = some table ∧ found = all.named name ∧
        RecordsKnown start (final (findRecords name) m) table all) ∧
    (∀ (a : CommandLine.PrintArguments) shown, m.Ships .records →
      outcome (CommandLine.print a) m = .ok shown →
      ∃ table all, m.conditionsTable = some table ∧ shown = a.shown (all.named a.name) ∧
        RecordsKnown start (final (CommandLine.print a) m) table all) ∧
    (∀ (op : Operation) (answer : op.Answer), op.switches = true →
      outcome op.run m = .ok answer → (final op.run m).cache = {}) ∧
    ∀ record id, outcome (addRecord record) m = .ok id →
      ∀ name, (final (addRecord record) m).cache.data? .records name = none := by
  intro start m
  have hn : start.link.Numbered := numbered_through types reader world before
  have hm : Sourced start m := (Sourced.refl hn).through hn since
  refine ⟨?_, ?_, ?_, ?_, ?_⟩
  · intro k name data hships h
    exact hm.getConditions hn hships h
  · intro name found hships h
    exact hm.findRecords hn hships h
  · intro a shown hships h
    exact CommandLine.print_recordsKnown hn hm hships h
  · intro op answer hop h
    exact cache_of_switches hop h
  · intro record id h name
    obtain ⟨t, w, -, -, hfinal⟩ := addRecord_eq_ok h
    rw [hfinal]
    exact Cache.data?_without_self _ .records name

end Manager

namespace Script

def server : Backend where
  World := String → State
  Handle := String
  connect p w := (.ok p.database, w)
  select name sql w := (((w name).select sql).1, w)
  update name sql w := (((w name).update sql).1, w)
  close _ w := (.ok (), w)
  isClosed _ _ := false

def copied : State where
  selects :=
    [("SELECT * FROM conditions ORDER BY id",
      { columns := "id" :: Record.columns, rows := [overlapping.record 12 0 1000 5] }),
     ("SELECT * FROM bad_channels WHERE collection_id = 5",
      { columns := ["id", "ecal_channel_id"], rows := [[some (.integer 2), some (.integer 44)]] })]

def leadingTo (database : String) : Parameters :=
  ⟨"t1", "x", database, "localhost", 5432, "mock"⟩

def twoDatabases : server.World :=
  fun name => if name = "copy" then copied else overlapping

def untilClosed : List (Turn server) :=
  [.act (.call (.configure overlappingConfig)),
   .act (.call (.setParameters (leadingTo "original"))),
   .act (.call (.setDetector "HPS-TestRun-v5" 150)),
   .act (.call (.getConditions (.collection (.channel .badChannel)) "bad")),
   .act (.call .forceDisconnect)]

def toTheCopy : Turn server :=
  .act (.call (.setParameters (leadingTo "copy")))

def closedManager : Manager server.numbered :=
  .through untilClosed (.begin .standard (.base Files.none []) twoDatabases)

def reopenedManager : Manager server.numbered :=
  .through [toTheCopy, .act (.call .connect)] closedManager

/-- With the second connection open, the bad channels of the first database are
answered, which nothing but the first connection has brought. The open database has
others. -/
theorem closing_keeps_cache :
    reopenedManager.isConnected = true ∧ reopenedManager.link.number = 1 ∧
      reopenedManager.link.ledger.closed = [0] ∧
      Manager.getConditions (.collection (.channel .badChannel)) "bad" reopenedManager =
        .ok ⟨[⟨1, 3, []⟩], some 2⟩ reopenedManager ∧
      (outcome (Manager.findRecords "bad") reopenedManager).map (·.rows.map Record.id) =
        .ok [4, 9, 7] ∧
      (outcome (CommandLine.print ⟨"bad", some 150⟩) reopenedManager).map (·.rows.map Record.id) =
        .ok [4, 9] ∧
      reopenedManager.link.ledger.exchanges.map Exchange.connection = [0, 0] ∧
      outcome (Manager.getConditions (.collection (.channel .badChannel)) "bad")
        { reopenedManager with cache := {} } = .ok ⟨[⟨2, 44, []⟩], some 5⟩ ∧
      (outcome (Manager.findRecords "bad") { reopenedManager with cache := {} }).map
        (·.rows.map Record.id) = .ok [12] :=
  ⟨rfl, rfl, rfl, rfl, rfl, rfl, rfl, rfl, rfl⟩

def switchedManager : Manager server.numbered :=
  .through [toTheCopy, .act (.call (.setDetector "HPS-TestRun-v5" 150))] closedManager

theorem switched_brings_copy :
    switchedManager.Ships (.collection (.channel .badChannel)) ∧
      outcome (Manager.getConditions (.collection (.channel .badChannel)) "bad") switchedManager =
        .ok ⟨[⟨2, 44, []⟩], some 5⟩ ∧
      closedManager.link.number = 1 ∧
      Manager.DataReadSince closedManager
        (final (Manager.getConditions (.collection (.channel .badChannel)) "bad") switchedManager)
        (.collection (.channel .badChannel)) "bad" ⟨[⟨2, 44, []⟩], some 5⟩ := by
  have hships : switchedManager.Ships (.collection (.channel .badChannel)) := ⟨rfl, rfl⟩
  have hcached : closedManager.cache.data? (.collection (.channel .badChannel)) "bad" =
      some ⟨[⟨1, 3, []⟩], some 2⟩ := rfl
  have hbrought := (Manager.brought_from_cache_or_read .standard (.base Files.none []) twoDatabases
    untilClosed [toTheCopy, .act (.call (.setDetector "HPS-TestRun-v5" 150))]).1
      (.collection (.channel .badChannel)) "bad" ⟨[⟨2, 44, []⟩], some 5⟩ hships rfl
  refine ⟨hships, rfl, rfl, hbrought.resolve_left ?_⟩
  intro h
  simpa using hcached.symm.trans h

end Script
end RunConditions
