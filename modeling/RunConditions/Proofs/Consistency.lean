import RunConditions.Database.Script
import RunConditions.Proofs.LoadedConverters
import RunConditions.Proofs.LoadedTables
import RunConditions.Proofs.Setup
import RunConditions.Proofs.Stable

/-!
# Which configurations are accepted

A configuration is consistent if the names of its tables are distinct, each
name of a type stands for what the place asks for, each table has one row type,
and conditions records can be had. Just the consistent configurations are
accepted, and any other one is refused for its first fault: tables come first,
in their order, then converters in theirs, and then the records.
-/

set_option autoImplicit false

namespace RunConditions

open TableDescriptor (AllSound HoldsRecords)

namespace Config

variable (types : Types)

structure Consistent (config : Config) : Prop where
  tables : AllSound types config.tables
  converters : AllConverters types config.converters
  recordConverter : ∃ name ∈ config.converters, NamesFor types name .records
  recordTable : ∃ d ∈ config.tables, HoldsRecords types d

inductive FirstFault (config : Config) : Error → Prop
  | table {before after : List TableDescriptor} {d : TableDescriptor} {e : Error}
      (h : config.tables = before ++ d :: after) (hbefore : AllSound types before)
      (hd : d.Faulty types before e) : FirstFault config e
  | converter {before after : List String} {name : String} {e : Error}
      (htables : AllSound types config.tables) (h : config.converters = before ++ name :: after)
      (hbefore : AllConverters types before) (hname : types.Misnamed name .converter e) :
      FirstFault config e
  | noRecordConverter (htables : AllSound types config.tables)
      (hconverters : AllConverters types config.converters)
      (h : ∀ name ∈ config.converters, ¬ NamesFor types name .records) :
      FirstFault config (.configuration .noRecordConverter)
  | noRecordTable (htables : AllSound types config.tables)
      (hconverters : AllConverters types config.converters)
      (hrecords : ∃ name ∈ config.converters, NamesFor types name .records)
      (h : ∀ d ∈ config.tables, ¬ HoldsRecords types d) :
      FirstFault config (.configuration .noRecordTable)

/-- The last converter for the kind, or that for descriptions if none is named. -/
def Chooses (config : Config) (k : Kind) (c : Converter) : Prop :=
  LastNamed types k c config.converters ∨
    k = .detector ∧ c = .detector ∧ ∀ name ∈ config.converters, ¬ NamesFor types name .detector

end Config

open Config (AllConverters NamesFor)

namespace Manager

variable {types : Types} {config : Config}

/-- The parts of a manager are what a consistent configuration says. The first
table that holds conditions records is the one they are read from. -/
structure Setup.Realizes (types : Types) (config : Config) (s : Setup) : Prop where
  tables : Tables.Are types config.tables s.tables
  converters : ∀ k c, s.converters.find? k = some c ↔ config.Chooses types k c
  conditionsTable : ∃ before d after, config.tables = before ++ d :: after ∧
    (∀ d' ∈ before, ¬ HoldsRecords types d') ∧ HoldsRecords types d ∧ s.conditionsTable = d.name

theorem setup_of_tables_error {e : Error} (h : Tables.load types config.tables = .error e) :
    setup types config = .error e := by
  simp only [setup, h, bind, Except.bind]

theorem setup_of_converters_error {ts : Tables} (ht : Tables.load types config.tables = .ok ts)
    {e : Error} {cs : Converters}
    (h : Converters.load types config.converters (Converters.register {} .detector) =
      .error e cs) : setup types config = .error e := by
  simp only [setup, ht, h, bind, Except.bind]

theorem setup_of_loaded {ts : Tables} (ht : Tables.load types config.tables = .ok ts)
    {cs : Converters}
    (h : Converters.load types config.converters (Converters.register {} .detector) = .ok ⟨⟩ cs) :
    setup types config = (cs.conditionsTable ts).map fun name => ⟨ts, cs, name⟩ := by
  simp only [setup, ht, h, bind, Except.bind]
  cases cs.conditionsTable ts <;> rfl

theorem load_chooses (h : AllConverters types config.converters) :
    ∃ cs, Converters.load types config.converters (Converters.register {} .detector) =
        .ok ⟨⟩ cs ∧ ∀ k c, cs.find? k = some c ↔ config.Chooses types k c := by
  obtain ⟨cs, hload, hfind⟩ := Converters.load_of_allConverters h (Converters.register {} .detector)
  refine ⟨cs, hload, fun k c => ?_⟩
  rw [hfind k c, Converters.find?_register, Config.Chooses]
  by_cases hk : k = .detector
  · subst hk
    simp [Converter.detector, Converter.honest, eq_comm]
  · have hout : Converter.detector.output ≠ k := fun h => hk h.symm
    have hnone : (Converters.find? {} k) = none := rfl
    simp [hk, hout, hnone]

theorem contains_records_iff {cs : Converters}
    (h : ∀ k c, cs.find? k = some c ↔ config.Chooses types k c) :
    cs.contains .records = true ↔ ∃ name ∈ config.converters, NamesFor types name .records := by
  rw [Converters.contains, Option.isSome_iff_exists, ← Config.exists_lastNamed_iff]
  constructor
  · rintro ⟨c, hc⟩
    rcases (h _ c).mp hc with hlast | ⟨hk, -⟩
    · exact ⟨c, hlast⟩
    · cases hk
  · rintro ⟨c, hlast⟩
    exact ⟨c, (h _ c).mpr (Or.inl hlast)⟩

theorem setup_of_consistent (h : config.Consistent types) :
    ∃ s, setup types config = .ok s ∧ s.Realizes types config := by
  obtain ⟨ts, hts, hare⟩ := Tables.load_of_allSound h.tables
  obtain ⟨cs, hcs, hchooses⟩ := load_chooses h.converters
  obtain ⟨t, before, d, after, hfirst, hsplit, hbefore, hd, hname⟩ :=
    hare.ofCollection?_record h.recordTable
  refine ⟨⟨ts, cs, t.name⟩, ?_, hare, hchooses, before, d, after, hsplit, hbefore, hd, hname⟩
  rw [setup_of_loaded hts hcs, Converters.conditionsTable,
    if_pos ((contains_records_iff hchooses).mpr h.recordConverter), hfirst]
  rfl

theorem setup_of_firstFault {e : Error} (h : config.FirstFault types e) :
    setup types config = .error e := by
  cases h with
  | table h hbefore hd =>
    apply setup_of_tables_error
    rw [h]
    exact Tables.load_of_faulty hbefore hd
  | converter htables h hbefore hname =>
    obtain ⟨ts, hts, -⟩ := Tables.load_of_allSound htables
    obtain ⟨cs, hcs⟩ := Converters.load_of_misnamed hbefore hname
      (Converters.register {} .detector)
    exact setup_of_converters_error hts (h ▸ hcs)
  | noRecordConverter htables hconverters h =>
    obtain ⟨ts, hts, -⟩ := Tables.load_of_allSound htables
    obtain ⟨cs, hcs, hchooses⟩ := load_chooses hconverters
    have hnone : ¬ cs.contains .records = true := by
      rw [contains_records_iff hchooses]
      rintro ⟨name, hmem, hname⟩
      exact h name hmem hname
    rw [setup_of_loaded hts hcs, Converters.conditionsTable, if_neg hnone]
    rfl
  | noRecordTable htables hconverters hrecords h =>
    obtain ⟨ts, hts, hare⟩ := Tables.load_of_allSound htables
    obtain ⟨cs, hcs, hchooses⟩ := load_chooses hconverters
    rw [setup_of_loaded hts hcs, Converters.conditionsTable,
      if_pos ((contains_records_iff hchooses).mpr hrecords), hare.ofCollection?_record_of_none h]
    rfl

theorem consistent_or_firstFault (types : Types) (config : Config) :
    config.Consistent types ∨ ∃ e, config.FirstFault types e := by
  rcases TableDescriptor.allSound_or_faulty types config.tables with
    htables | ⟨before, d, after, e, hsplit, hbefore, hd⟩
  · rcases Config.allConverters_or_misnamed types config.converters with
      hconverters | ⟨before, name, after, e, hsplit, hbefore, hname⟩
    · by_cases hrecords : ∃ name ∈ config.converters, NamesFor types name .records
      · by_cases htable : ∃ d ∈ config.tables, HoldsRecords types d
        · exact Or.inl ⟨htables, hconverters, hrecords, htable⟩
        · exact Or.inr ⟨_, .noRecordTable htables hconverters hrecords
            fun d hmem hd => htable ⟨d, hmem, hd⟩⟩
      · exact Or.inr ⟨_, .noRecordConverter htables hconverters
          fun name hmem hname => hrecords ⟨name, hmem, hname⟩⟩
    · exact Or.inr ⟨e, .converter htables hsplit hbefore hname⟩
  · exact Or.inr ⟨e, .table hsplit hbefore hd⟩

theorem setup_eq_error_iff {e : Error} :
    setup types config = .error e ↔ config.FirstFault types e := by
  constructor
  · intro he
    rcases consistent_or_firstFault types config with h | ⟨e', h⟩
    · obtain ⟨s, hs, -⟩ := setup_of_consistent h
      rw [hs] at he
      cases he
    · rw [setup_of_firstFault h, Except.error.injEq] at he
      rw [← he]
      exact h
  · exact setup_of_firstFault

theorem consistent_of_setup {s : Setup} (hs : setup types config = .ok s) :
    config.Consistent types ∧ s.Realizes types config := by
  rcases consistent_or_firstFault types config with h | ⟨e, h⟩
  · obtain ⟨s', hs', hrealizes⟩ := setup_of_consistent h
    rw [hs, Except.ok.injEq] at hs'
    rw [hs']
    exact ⟨h, hrealizes⟩
  · rw [setup_of_firstFault h] at hs
    cases hs

variable {b : Backend}

/-- The manager is set up for nothing yet or for a consistent configuration. -/
def SetUpRight (types : Types) (m : Manager b) : Prop :=
  (m.configured = false ∧ m.tables = {} ∧ m.converters = Converters.register {} .detector ∧
    m.conditionsTable = none) ∨
  m.configured = true ∧ ∃ (config : Config) (s : Setup), config.Consistent types ∧
    s.Realizes types config ∧ m.tables = s.tables ∧ m.converters = s.converters ∧
    m.conditionsTable = some s.conditionsTable

structure SetUpBy (known : Types) (m : Manager b) : Prop where
  types : m.types = known
  right : m.SetUpRight known

theorem setUpBy_lasting (types : Types) : Lasting (SetUpBy (b := b) types) where
  link _ _ h := ⟨h.types, h.right⟩
  reader _ _ h := ⟨h.types, h.right⟩
  shared _ h := ⟨h.types, h.right⟩
  withoutRecords _ h := ⟨h.types, h.right⟩
  cached _ _ _ _ _ _ _ _ _ _ h _ := ⟨h.types, h.right⟩
  switched _ _ _ h := ⟨h.types, h.right⟩
  setUp m config s h hs := by
    rw [h.types] at hs
    obtain ⟨hconsistent, hrealizes⟩ := consistent_of_setup hs
    exact ⟨h.types, Or.inr ⟨rfl, config, s, hconsistent, hrealizes, rfl, rfl, rfl⟩⟩

theorem Reachable.setUpBy {types : Types} {m : Manager b} (hm : Reachable types m) :
    m.SetUpBy types := by
  apply (setUpBy_lasting types).reachable _ hm
  intro reader link
  exact ⟨rfl, Or.inl ⟨rfl, rfl, rfl, rfl⟩⟩

theorem configure_apply_of_error {config : Config} {m : Manager b} {e : Error}
    (hs : setup m.types config = .error e) : configure config m = .error e m := by
  simp only [configure, bind_apply, get_apply, hs, conclude_error, throw_apply]

/-- Just the consistent configurations are accepted, each for what it says and
with nothing left in the cache. Any other one is refused for its first fault
and changes nothing. Whatever has been accepted and refused, a manager is set
up for a consistent configuration or for none. -/
theorem configure_consistent (config : Config) (m : Manager b) :
    ((∃ m', configure config m = .ok ⟨⟩ m') ↔ config.Consistent m.types) ∧
    (∀ m', configure config m = .ok ⟨⟩ m' → ∃ s, s.Realizes m.types config ∧ m' = m.setUp s) ∧
    (∀ e m', configure config m = .error e m' ↔ config.FirstFault m.types e ∧ m' = m) ∧
    ∀ types, Reachable types m → m.types = types ∧ m.SetUpRight types := by
  have hreachable : ∀ types, Reachable types m → m.types = types ∧ m.SetUpRight types :=
    fun types hm => ⟨hm.setUpBy.types, hm.setUpBy.right⟩
  cases hs : setup m.types config with
  | ok s =>
    obtain ⟨hconsistent, hrealizes⟩ := consistent_of_setup hs
    have hrun := configure_apply (m := m) hs
    refine ⟨⟨fun _ => hconsistent, fun _ => ⟨_, hrun⟩⟩, ?_, ?_, hreachable⟩
    · intro m' hm'
      rw [hrun, EStateM.Result.ok.injEq] at hm'
      exact ⟨s, hrealizes, hm'.2.symm⟩
    · intro e m'
      rw [hrun, ← setup_eq_error_iff, hs]
      simp
  | error e =>
    have hrun := configure_apply_of_error hs
    refine ⟨⟨?_, ?_⟩, ?_, ?_, hreachable⟩
    · rintro ⟨m', hm'⟩
      rw [hrun] at hm'
      cases hm'
    · intro hconsistent
      obtain ⟨s, hs', -⟩ := setup_of_consistent hconsistent
      rw [hs] at hs'
      cases hs'
    · intro m' hm'
      rw [hrun] at hm'
      cases hm'
    · intro e' m'
      rw [hrun, ← setup_eq_error_iff, hs, EStateM.Result.error.injEq, Except.error.injEq,
        eq_comm (a := m)]

end Manager

/-- A second type of collections of conditions records. -/
def Types.withOldRecords : Types :=
  Types.standard.register "OldRecordCollection"
    (.collection (.own "archive::OldRecordCollection" .record))

namespace Config

def old : Config where
  tables := [⟨"archived", "id", "ConditionsRecord", "OldRecordCollection", []⟩]
  converters := ["ConditionsRecordConverter"]

example : (Manager.setup .withOldRecords old).map Manager.Setup.conditionsTable =
    .error (.configuration .noRecordTable) := rfl

/-- Two tables of records, and two converters for the same kind. -/
def doubled : Config where
  tables :=
    [⟨"ecal_gains", "id", "EcalGain", "EcalGainCollection", ["gain"]⟩,
     ⟨"conditions", "id", "ConditionsRecord", "ConditionsRecordCollection", Record.columns⟩,
     ⟨"old_conditions", "key", "ConditionsRecord", "ConditionsRecordCollection", []⟩]
  converters := ["EcalGainConverter", "ConditionsRecordConverter", "EcalGainConverter"]

def crossed : Config where
  tables := doubled.tables ++
    [⟨"ecal_gains", "id", "Nothing", "EcalGainCollection", []⟩]
  converters := ["Nothing"]

example :
    (Manager.setup .withOldRecords { doubled with tables := old.tables ++ doubled.tables }).map
      Manager.Setup.conditionsTable = .ok "conditions" := rfl

theorem doubled_consistent : doubled.Consistent .standard where
  tables := by
    refine ⟨by decide, ?_⟩
    simp only [doubled, List.forall_mem_cons, List.not_mem_nil, false_implies, implies_true,
      and_true]
    exact ⟨⟨.channel .gain, rfl, rfl⟩, ⟨.record, rfl, rfl⟩, ⟨.record, rfl, rfl⟩⟩
  converters := by
    simp only [doubled, AllConverters, List.forall_mem_cons, List.not_mem_nil, false_implies,
      implies_true, and_true]
    exact ⟨⟨_, rfl⟩, ⟨_, rfl⟩, ⟨_, rfl⟩⟩
  recordConverter := ⟨"ConditionsRecordConverter", by simp [doubled], .records, rfl, rfl⟩
  recordTable := ⟨_, List.mem_cons_of_mem _ List.mem_cons_self, rfl⟩

end Config

namespace Script

def blankManager : Manager backend :=
  Manager.new .standard (.base Files.none []) {}

theorem doubled_accepted :
    (∃ m', Manager.configure .doubled blankManager = .ok ⟨⟩ m') ∧
      Manager.configure .crossed blankManager =
        .error (.configuration (.duplicateTable "ecal_gains")) blankManager :=
  ⟨(Manager.configure_consistent .doubled _).1.mpr Config.doubled_consistent,
    ((Manager.configure_consistent .crossed _).2.2.1 _ _).mpr
      ⟨.table rfl Config.doubled_consistent.tables (.duplicate (by decide)), rfl⟩⟩

end Script
end RunConditions
