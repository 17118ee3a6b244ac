import RunConditions.Proofs.Cache
import RunConditions.Proofs.RecordTable
import RunConditions.Proofs.Selection

/-!
# Added records are found

A database that carries out what it is told about one table of conditions
records holds a row for each record. Whatever is cached of them lists them all,
since a new record takes the cached ones away, and so the records with a name
that are found after any run are those that were there and those that were
added, each once and in the order of the key.
-/

set_option autoImplicit false

namespace RunConditions

structure Collection.Lists (c : Collection Record) (records : List Record) : Prop where
  id : c.id = none
  rows : c.rows.Perm records
  ordered : c.rows.Pairwise fun r r' => r.id < r'.id

namespace Manager

variable {b : Backend} {h : b.Handle} {columns : List String} {t : Table}
  {stores : b.World → List (List (Option Value)) → Prop} {records : List Record}

/-- A manager for a table of records in a database that stores these records. -/
structure Lists (stores : b.World → List (List (Option Value)) → Prop) (h : b.Handle)
    (columns : List String) (s : Setup) (t : Table) (records : List Record) (m : Manager b) :
    Prop where
  types : m.types = .standard
  shipped : m.Shipped
  tables : m.tables = s.tables
  conditionsTable : m.conditionsTable = some t.name
  converter : m.converters.find? .records = some .records
  handle : m.link.handle = some h
  stored : ∃ rows, stores m.link.world rows ∧ List.Forall₂ (t.Shows .record columns) rows records
  cached : ∀ name all, m.cache.data? .records name = some all → all.Lists records

variable {s : Setup} {m : Manager b}

theorem read_lists (hb : b.Executes h s.tables t columns stores)
    (hfields : ∀ field ∈ t.fields, HasColumn columns field) {w : b.World}
    {rows : List (List (Option Value))} (hw : stores w rows)
    (hrows : List.Forall₂ (t.Shows .record columns) rows records) :
    ∃ result all, (b.select h (Sql.Statement.selectAll t.name t.key).text w).1 = .ok result ∧
      t.read .record result = .ok all ∧ all.Lists records := by
  obtain ⟨-, result, hselect, hperm, hcolumns, hsorted⟩ := hb.selectAll w rows hw
  obtain ⟨found, hfound, hrecords⟩ := List.perm_comp_forall₂ hperm hrows
  have hread : t.read .record result = .ok ⟨found, none⟩ := by
    refine Table.read_records (fun hne name hname => ?_) ?_
    · rw [hcolumns hne]
      exact hfields name hname
    · by_cases hempty : result.rows = []
      · rw [hempty] at hfound ⊢
        cases hfound
        exact .nil
      · rw [hcolumns hempty]
        exact hfound
  have hdistinct : records.Pairwise fun r r' => r.id ≠ r'.id :=
    pairwise_of_forall₂ hrows (hb.unique w rows hw) fun _ _ _ _ hr hr' hne hid => hne <| by
      rw [Record.valueIn_key_of_shows hr, Record.valueIn_key_of_shows hr', hid]
  -- The order of the rows is the order of the ids, and as these differ, they rise strictly.
  have hle : found.Pairwise fun r r' => r.id ≤ r'.id :=
    pairwise_of_forall₂ hfound hsorted fun _ _ r r' hr hr' hle =>
      hle r.id r'.id (Record.valueIn_key_of_shows hr) (Record.valueIn_key_of_shows hr')
  have hne : found.Pairwise fun r r' => r.id ≠ r'.id :=
    (hrecords.pairwise_iff fun hne => hne.symm).mpr hdistinct
  refine ⟨result, _, hselect, hread, rfl, hrecords, (hle.and hne).imp fun ⟨hle, hne⟩ => ?_⟩
  exact Int.lt_iff_le_and_ne.mpr ⟨hle, hne⟩

section Lookups

theorem Lists.isOpen (hb : b.Executes h s.tables t columns stores)
    (hl : Lists stores h columns s t records m) : b.isClosed h m.link.world = false := by
  obtain ⟨rows, hw, -⟩ := hl.stored
  exact hb.isOpen _ rows hw

theorem Lists.moved (hl : Lists stores h columns s t records m) {w : b.World}
    {rows : List (List (Option Value))} (hw : stores w rows)
    (hrows : List.Forall₂ (t.Shows .record columns) rows records) :
    Lists stores h columns s t records (m.moved w) :=
  ⟨hl.types, hl.shipped, hl.tables, hl.conditionsTable, hl.converter, hl.handle,
    ⟨rows, hw, hrows⟩, hl.cached⟩

theorem Lists.selected (hb : b.Executes h s.tables t columns stores)
    (hl : Lists stores h columns s t records m) {sql : String}
    (hkeeps : ∀ rows, stores m.link.world rows → stores (b.select h sql m.link.world).2 rows) :
    Lists stores h columns s t records (final (select sql) m) := by
  have hmoved : Lists stores h columns s t records (m.moved (b.select h sql m.link.world).2) := by
    obtain ⟨rows, hw, hrows⟩ := hl.stored
    exact hl.moved (hkeeps rows hw) hrows
  rw [final, select_apply hl.handle (hl.isOpen hb)]
  cases (b.select h sql m.link.world).1 <;> exact hmoved

theorem lists_askable (hb : b.Executes h s.tables t columns stores)
    (ht : s.tables.find? t.name = some t) : Askable (Lists stores h columns s t records) where
  records {m name u} hl hname hu := by
    obtain rfl := Option.some.inj (hl.conditionsTable.symm.trans hname)
    rw [hl.tables, ht] at hu
    obtain rfl := Option.some.inj hu
    exact hl.selected hb fun rows hw => (hb.selectAll _ rows hw).1
  rows {m name u} collection hl hu := by
    rw [hl.tables] at hu
    rw [selectCollection_text]
    exact hl.selected hb fun rows hw =>
      hb.selectCollection _ rows u collection hw (List.mem_of_find?_eq_some hu)

theorem readRecords_lists (hb : b.Executes h s.tables t columns stores)
    (hfields : ∀ field ∈ t.fields, HasColumn columns field)
    (hl : Lists stores h columns s t records m) :
    ∃ all, outcome (readRecords t) m = .ok all ∧ all.Lists records := by
  obtain ⟨rows, hw, hrows⟩ := hl.stored
  obtain ⟨result, all, hselect, hread, hall⟩ := read_lists hb hfields hw hrows
  refine ⟨all, ?_, hall⟩
  rw [outcome, readRecords, bind_apply, select_apply hl.handle (hl.isOpen hb), hselect]
  simp only [hread, conclude_ok, pure_apply]

theorem recordsPlan_lists (look : (k : Kind) → String → Step b k.Data)
    (hb : b.Executes h s.tables t columns stores)
    (hfields : ∀ field ∈ t.fields, HasColumn columns field) (ht : s.tables.find? t.name = some t)
    (hl : Lists stores h columns s t records m) (name : String) :
    ∃ all, outcome (carryOut look (Converter.records.plan name)) m = .ok ⟨.records, all⟩ ∧
      all.Lists records := by
  obtain ⟨all, hread, hall⟩ := readRecords_lists hb hfields hl
  refine ⟨all, ?_, hall⟩
  rw [outcome, Converter.records, carryOut_honest, bind_apply, carryOut_recordsPlan,
    hl.conditionsTable, hl.tables]
  simp only [ht, apply_eq_ok hread, pure_apply]

theorem Lists.caches {look : (k : Kind) → String → Step b k.Data}
    (hb : b.Executes h s.tables t columns stores)
    (hfields : ∀ field ∈ t.fields, HasColumn columns field) (ht : s.tables.find? t.name = some t)
    {k : Kind} {name : String} {c : Converter} {payload : Payload} {m' : Manager b}
    (hl : Lists stores h columns s t records m) (hc : m.converters.find? k = some c)
    (hmade : carryOut look (c.plan name) m = .ok payload m')
    (hl' : Lists stores h columns s t records m') :
    Lists stores h columns s t records (m'.cached k name payload) := by
  refine ⟨hl'.types, hl'.shipped, hl'.tables, hl'.conditionsTable, hl'.converter, hl'.handle,
    hl'.stored, fun name' all hall => ?_⟩
  rw [Manager.cached, Cache.data?_insert] at hall
  split at hall
  · obtain ⟨rfl, rfl⟩ := CacheEntry.isFor_iff.mp ‹_›
    obtain rfl : Converter.records = c := Option.some.inj (hl.shipped .records c hc)
    obtain ⟨all', hplan, hlists⟩ := recordsPlan_lists look hb hfields ht hl name
    rw [outcome, hmade] at hplan
    obtain rfl := Except.ok.inj hplan
    rw [Payload.as?_mk] at hall
    obtain rfl := Option.some.inj hall
    exact hlists
  · exact hl'.cached name' all hall

theorem lookup_lists (hb : b.Executes h s.tables t columns stores)
    (hfields : ∀ field ∈ t.fields, HasColumn columns field) (ht : s.tables.find? t.name = some t)
    (depth : Nat) (k : Kind) (name : String) :
    Keeps (Lists stores h columns s t records) (lookup depth k name) := by
  refine (lookup_both (fun depth k name hlook => ?_) depth k name).keeps
  refine materialize_both (fun m c hl hc => ?_) fun m m' c payload hl hc hmade hl' _ =>
    hl.caches hb hfields ht hc hmade hl'
  have hships := Converter.ships_of_shipped (hl.shipped k c hc)
  exact ((lists_askable hb ht).plan (fun name => (hlook .records name).keeps) hships name).alike

theorem getConditions_records (hb : b.Executes h s.tables t columns stores)
    (hfields : ∀ field ∈ t.fields, HasColumn columns field) (ht : s.tables.find? t.name = some t)
    (hl : Lists stores h columns s t records m) (name : String) :
    ∃ all, outcome (getConditions .records name) m = .ok all ∧ all.Lists records := by
  cases hd : m.cache.data? .records name with
  | some all =>
    refine ⟨all, ?_, hl.cached name all hd⟩
    rw [outcome, getConditions_apply_of_cached hd]
  | none =>
    obtain ⟨all, hplan, hall⟩ := recordsPlan_lists (lookup 255) hb hfields ht hl name
    refine ⟨all, ?_, hall⟩
    rw [outcome, getConditions_apply_of_not_cached hd, materialize_apply, hl.converter]
    simp only [apply_eq_ok hplan, Payload.as?_mk]

theorem findRecords_lists (hb : b.Executes h s.tables t columns stores)
    (hfields : ∀ field ∈ t.fields, HasColumn columns field) (ht : s.tables.find? t.name = some t)
    (hl : Lists stores h columns s t records m) (name : String) :
    ∃ all : Collection Record, outcome (findRecords name) m = .ok (all.named name) ∧
      all.Lists records := by
  obtain ⟨all, hget, hall⟩ := getConditions_records hb hfields ht hl t.name
  refine ⟨all, ?_, hall⟩
  rw [outcome, findRecords, execute, carryOut_findRecords, hl.conditionsTable]
  simp only [apply_eq_ok hget]

end Lookups

/-- Records that an operation adds: one with the new id, unless it is refused. -/
def addedBy (op : Operation) (m : Manager b) : List Record :=
  match op with
  | .addRecord record =>
    match outcome (addRecord record) m with
    | .ok id => [{ record with id }]
    | .error _ => []
  | _ => []

theorem addRecord_lists (hb : b.Executes h s.tables t columns stores)
    (ht : s.tables.find? t.name = some t) (hl : Lists stores h columns s t records m)
    {record : Record} (hrange : record.InRange) :
    Lists stores h columns s t (addedBy (.addRecord record) m ++ records)
      (final (addRecord record) m) := by
  obtain ⟨rows, hw, hrows⟩ := hl.stored
  have htable : m.tables.find? t.name = some t := by rw [hl.tables, ht]
  have hread := Sql.readInsert_insertRecord t.name t.key record
  have hupdate := update_apply hl.handle (hl.isOpen hb)
    (Sql.Statement.insertRecord t.name t.key record).text
  rcases hb.insert _ rows record _ _ hw hrange rfl hread with ⟨⟨e, hrefused⟩, hsame⟩ |
    ⟨id, row, haccepted, hnew, hkey, hgiven⟩
  · rw [hrefused] at hupdate
    rw [addedBy, outcome, final, addRecord_apply hl.conditionsTable htable, hupdate]
    exact hl.moved hsame hrows
  · rw [haccepted] at hupdate
    rw [addedBy, outcome, final, addRecord_apply hl.conditionsTable htable, hupdate]
    have hshows : t.Shows .record columns row { record with id } :=
      Record.shows_of_sameText (hb.sound _ _ hnew row List.mem_cons_self) hrange hkey hgiven
    refine ⟨hl.types, hl.shipped, hl.tables, hl.conditionsTable, hl.converter, hl.handle,
      ⟨row :: rows, hnew, .cons hshows hrows⟩, fun name all hall => ?_⟩
    cases (Cache.data?_without_self m.cache .records name).symm.trans hall

theorem setUp_lists {config : Config} (hs : setup .standard config = .ok s)
    (hname : s.conditionsTable = t.name) (htypes : m.types = .standard)
    (hhandle : m.link.handle = some h)
    (hstored : ∃ rows, stores m.link.world rows ∧
      List.Forall₂ (t.Shows .record columns) rows records) :
    Lists stores h columns s t records (m.setUp s) := by
  have hshipped : (m.setUp s).Shipped := setUp_shipped hs m
  refine ⟨htypes, hshipped, rfl, congrArg some hname, ?_, hhandle, hstored, fun name all hall => ?_⟩
  · have hc := (setup_eq_ok hs).2.2
    rw [Converters.conditionsTable] at hc
    split at hc
    · obtain ⟨c, hfind⟩ := Option.isSome_iff_exists.mp ‹_›
      obtain rfl : Converter.records = c := Option.some.inj (hshipped .records c hfind)
      exact hfind
    · cases hc
  · cases hall

theorem configure_lists {config : Config} (hs : setup .standard config = .ok s)
    (hname : s.conditionsTable = t.name) (hl : Lists stores h columns s t records m) :
    Lists stores h columns s t records (final (configure config) m) := by
  rw [final, configure_apply (hl.types ▸ hs)]
  exact setUp_lists hs hname hl.types hl.handle hl.stored

theorem setDetector_lists (hb : b.Executes h s.tables t columns stores)
    (hl : Lists stores h columns s t records m) (detector : String) (run : Int) :
    Lists stores h columns s t records (final (setDetector detector run) m) := by
  have hconnected : m.isConnected = true :=
    Link.isConnected_eq_true.mpr ⟨h, hl.handle, hl.isOpen hb⟩
  have hswitched : Lists stores h columns s t records (m.switched detector run) :=
    ⟨hl.types, hl.shipped, hl.tables, hl.conditionsTable, hl.converter, hl.handle, hl.stored,
      fun _ _ hall => by cases hall⟩
  cases hp : m.hasParameters with
  | true =>
    simp only [final, setDetector, bind_apply, get_apply, hp, hconnected, if_true]
    exact hswitched
  | false =>
    simp only [final, setDetector, bind_apply, get_apply, hp, Bool.false_eq_true, if_false,
      throw_apply]
    exact hl

end Manager

/-- Operations that add records in range, look conditions up, switch the run or
take the one configuration again. -/
def Operation.OnRecords (config : Config) : Operation → Prop
  | addRecord record => record.InRange
  | findRecords _ | getConditions _ _ | setDetector _ _ => True
  | configure config' => config' = config
  | _ => False

namespace Manager

variable {b : Backend} {h : b.Handle} {columns : List String} {t : Table}
  {stores : b.World → List (List (Option Value)) → Prop} {records : List Record} {s : Setup}
  {m : Manager b}

theorem run_lists (hb : b.Executes h s.tables t columns stores)
    (hfields : ∀ field ∈ t.fields, HasColumn columns field) {config : Config}
    (hs : setup .standard config = .ok s) (hname : s.conditionsTable = t.name)
    (ht : s.tables.find? t.name = some t) (hl : Lists stores h columns s t records m)
    {op : Operation} (hop : op.OnRecords config) :
    Lists stores h columns s t (addedBy op m ++ records) (final op.run m) := by
  have hlook : ∀ k name, Keeps (Lists stores h columns s t records) (getConditions k name) :=
    lookup_lists hb hfields ht nestingLimit
  cases op with
  | addRecord record => exact addRecord_lists hb ht hl hop
  | findRecords name => exact Askable.findRecords (hlook .records) name m hl
  | getConditions kind name => exact hlook kind name m hl
  | setDetector detector run => exact setDetector_lists hb hl detector run
  | configure config' =>
    obtain rfl : config' = config := hop
    exact configure_lists hs hname hl
  | _ => exact absurd hop id

def added : List Operation → Manager b → List Record
  | [], _ => []
  | op :: ops, m => addedBy op m ++ added ops (final op.run m)

theorem added_append (ops ops' : List Operation) (m : Manager b) :
    added (ops ++ ops') m = added ops m ++ added ops' (afterwards getConditions ops m) := by
  induction ops generalizing m with
  | nil => rfl
  | cons op ops ih =>
    rw [List.cons_append, added, added, ih, List.append_assoc]
    rfl

theorem afterwards_lists (hb : b.Executes h s.tables t columns stores)
    (hfields : ∀ field ∈ t.fields, HasColumn columns field) {config : Config}
    (hs : setup .standard config = .ok s) (hname : s.conditionsTable = t.name)
    (ht : s.tables.find? t.name = some t) {ops : List Operation}
    (hops : ∀ op ∈ ops, op.OnRecords config) (hl : Lists stores h columns s t records m) :
    ∃ records', records'.Perm (records ++ added ops m) ∧
      Lists stores h columns s t records' (afterwards getConditions ops m) := by
  induction ops generalizing records m with
  | nil => exact ⟨records, by simp [added], hl⟩
  | cons op ops ih =>
    have hstep := run_lists hb hfields hs hname ht hl (hops op (by simp))
    obtain ⟨records', hperm, hend⟩ := ih (fun o ho => hops o (by simp [ho])) hstep
    refine ⟨records', hperm.trans ?_, hend⟩
    rw [added, ← List.append_assoc]
    exact List.perm_append_comm.append_right _

def connected (reader : Reader) (parameters : Option Parameters) (h : b.Handle) (w : b.World) :
    Manager b :=
  { types := .standard, reader, link := { parameters, handle := some h, world := w } }

/-- The rows that are there at first show records. After any run, the records with a name are
found that were there or have been added, each once, with all its values and in the order of the
key. -/
theorem added_records_found {config : Config} (hs : setup .standard config = .ok s)
    (hname : s.conditionsTable = t.name) (ht : s.tables.find? t.name = some t)
    (hb : b.Executes h s.tables t columns stores)
    (hfields : ∀ field ∈ t.fields, HasColumn columns field) (reader : Reader)
    (parameters : Option Parameters) {w : b.World} {rows : List (List (Option Value))}
    (hw : stores w rows) {ops : List Operation} (hops : ∀ op ∈ ops, op.OnRecords config)
    (name : String) :
    ∃ records found, List.Forall₂ (t.Shows .record columns) rows records ∧
      outcome (findRecords name) (afterwards getConditions (.configure config :: ops)
        (connected reader parameters h w)) = .ok ⟨found, none⟩ ∧
      found.Perm ((records ++ added (.configure config :: ops)
        (connected reader parameters h w)).filter (·.name == name)) ∧
      found.Pairwise fun r r' => r.id < r'.id := by
  obtain ⟨records, hrows⟩ := hb.exists_records hw
  have hconfigure : final (Operation.configure config).run (connected reader parameters h w) =
      (connected reader parameters h w).setUp s := by
    show final (configure config) (connected reader parameters h w) = _
    rw [final, configure_apply (m := connected reader parameters h w) hs]
  have hstart : Lists stores h columns s t records
      ((connected reader parameters h w).setUp s) :=
    setUp_lists hs hname rfl rfl ⟨rows, hw, hrows⟩
  obtain ⟨records', hperm, hend⟩ := afterwards_lists hb hfields hs hname ht hops hstart
  obtain ⟨all, hfound, hall⟩ := findRecords_lists hb hfields ht hend name
  have hafterwards : afterwards getConditions (.configure config :: ops)
      (connected reader parameters h w) =
      afterwards getConditions ops ((connected reader parameters h w).setUp s) :=
    congrArg (afterwards getConditions ops) hconfigure
  have hadded : added (.configure config :: ops) (connected reader parameters h w) =
      added ops ((connected reader parameters h w).setUp s) :=
    congrArg (added ops) hconfigure
  rw [hafterwards, hadded]
  refine ⟨records, (all.named name).rows, hrows, hfound, ?_, ?_⟩
  · exact (hall.rows.trans hperm).filter _
  · exact hall.ordered.filter _

end Manager

namespace RecordTable

def config : Config where
  tables :=
    [⟨name, key, "ConditionsRecord", "ConditionsRecordCollection", Record.columns⟩]
  converters := ["ConditionsRecordConverter"]

def quoted (id : Int) (notes : Option String) : Record where
  id := id
  runStart := 0
  runEnd := 1000
  name := "o'clock, (late)"
  table := "ecal_gains"
  collection := -3
  notes := notes

def one : RecordTable where
  next := 8
  rows := [some (.integer 7) :: Sql.recordCells (quoted 7 none)]

def manager : Manager backend :=
  Manager.connected (.base Files.none []) none () one

def caching : List Operation :=
  [.configure config, .findRecords "o'clock, (late)"]

def adding : List Operation :=
  caching ++ [.addRecord (quoted 0 (some "NULL"))]

def cachedManager : Manager backend :=
  Manager.afterwards Manager.getConditions caching manager

theorem cachedManager_ready :
    cachedManager.conditionsTable = some table.name ∧
      cachedManager.tables.find? table.name = some table ∧
      cachedManager.link.handle = some () ∧ RecordTable.next cachedManager.link.world = 8 :=
  ⟨rfl, rfl, rfl, rfl⟩

theorem adding_added : Manager.added adding manager = [quoted 8 (some "NULL")] := by
  obtain ⟨hname, htable, hhandle, hnext⟩ := cachedManager_ready
  have hkeys : (backend.update ()
      (Sql.Statement.insertRecord table.name table.key (quoted 0 (some "NULL"))).text
      cachedManager.link.world).1 = .ok [8] := by
    rw [← hnext]
    exact congrArg Prod.fst (update_insertRecord _ _)
  have hadd : outcome (Manager.addRecord (quoted 0 (some "NULL"))) cachedManager = .ok 8 := by
    rw [outcome, Manager.addRecord_apply hname htable, Manager.update_apply hhandle rfl, hkeys]
  rw [adding, Manager.added_append]
  show [] ++ (Manager.addedBy (.addRecord (quoted 0 (some "NULL"))) cachedManager ++ []) = _
  rw [Manager.addedBy, hadd]
  rfl

theorem adding_found :
    (∀ op ∈ adding.tail, op.OnRecords config) ∧
      Manager.added adding manager = [quoted 8 (some "NULL")] ∧
      ∃ records found, List.Forall₂ (table.Shows .record columns) one.rows records ∧
        outcome (Manager.findRecords "o'clock, (late)")
          (Manager.afterwards Manager.getConditions adding manager) = .ok ⟨found, none⟩ ∧
        found.Perm ((records ++ Manager.added adding manager).filter
          (·.name == "o'clock, (late)")) ∧
        found.Pairwise fun r r' => r.id < r'.id := by
  have hrange : ∀ id notes, (quoted id notes).InRange := fun _ _ => by
    simp only [Record.InRange, quoted]
    omega
  have hfields : ∀ field ∈ table.fields, HasColumn columns field :=
    fun field hfield => hasColumn (List.mem_cons_of_mem _ hfield)
  have hstores : Stores one one.rows :=
    ⟨rfl, [quoted 7 none], .cons (shows _ (hrange _ _)) .nil, by simp, by decide⟩
  have hops : ∀ op ∈ adding.tail, op.OnRecords config := by
    simp only [adding, caching, List.cons_append, List.nil_append, List.tail_cons,
      List.forall_mem_cons, Operation.OnRecords]
    exact ⟨trivial, hrange _ _, by simp⟩
  exact ⟨hops, adding_added, Manager.added_records_found (t := table) rfl rfl rfl (executes _)
    hfields _ _ hstores hops _⟩

end RecordTable
end RunConditions
