import RunConditions.Proofs.Insertion
import RunConditions.Proofs.Storage

/-!
# Collections do not mix

Loads are run one after the other on a truthful database, each by a manager of
its own. A load either leaves all rows as they are or adds the rows of its file
under an id that was not in use. So the rows under an id in use stay the same
from then on, and the rows under the id that a load has reported are those of
its file and no others, however many loads come before and after it.
-/

set_option autoImplicit false

namespace RunConditions

open Sql (collectionColumn PlainName rowCells)

namespace CommandLine
open Manager

variable {b : Backend} {s : Storage b}

theorem forceDisconnect_same (hs : s.Truthful) (m : Manager b) :
    s.Same m.link.world (final forceDisconnect m).link.world := by
  rw [forceDisconnect, final_onLink]
  show s.Same m.link.world (final Link.forceDisconnect m.link).world
  cases hc : m.link.isConnected with
  | false =>
    rw [final, Link.forceDisconnect_of_lost hc]
    exact .refl _
  | true =>
    obtain ⟨h, hh, ho⟩ := Link.isConnected_eq_true.mp hc
    have hclosed := hs.close h m.link.world
    rw [final, Link.forceDisconnect_of_open hh ho]
    cases hclose : (b.close h m.link.world).1 <;> exact hclosed

theorem connect_cases (hs : s.Truthful) (m : Manager b) :
    m.isConnected = true ∨
    (∃ e refused, connect m = .error e refused ∧ s.Same m.link.world refused.link.world) ∨
    ∃ begun h, connect m = .ok true begun ∧ begun.link.handle = some h ∧
      begun.tables = m.tables ∧ s.Same m.link.world begun.link.world := by
  cases hm : m.isConnected with
  | true => exact Or.inl rfl
  | false =>
    cases hp : m.link.parameters with
    | none =>
      refine Or.inr (Or.inl ⟨.configuration .noParameters, m, ?_, .refl _⟩)
      rw [connect, onLink, Link.connect_of_no_parameters hm hp]
    | some p =>
      have hsame := hs.connect p m.link.world
      have hlink := Link.connect_of_parameters hm hp
      cases hc : (b.connect p m.link.world).1 with
      | error e =>
        rw [hc] at hlink
        refine Or.inr (Or.inl ⟨e, m.moved (b.connect p m.link.world).2, ?_, hsame⟩)
        rw [connect, onLink, hlink]
        rfl
      | ok h =>
        rw [hc] at hlink
        let link := { m.link with handle := some h, world := (b.connect p m.link.world).2 }
        refine Or.inr (Or.inr ⟨{ m with link }, h, ?_, rfl, rfl, hsame⟩)
        rw [connect, onLink, hlink]

/-- A body is run on a connection to the same rows, or fails before it is run. -/
theorem connected_same (hs : s.Truthful) {α : Type} (m : Manager b) (body : Step b α) :
    (s.Same m.link.world (final (connected body) m).link.world ∧
      ∃ e, outcome (connected body) m = .error e) ∨
    ∃ begun h, begun.link.handle = some h ∧ begun.tables = m.tables ∧
      s.Same m.link.world begun.link.world ∧
      s.Same (final body begun).link.world (final (connected body) m).link.world ∧
      ∀ a, outcome (connected body) m = .ok a → outcome body begun = .ok a := by
  rcases connect_cases hs m with hm | ⟨e, refused, hrefused, hsame⟩ |
    ⟨begun, h, hbegun, hh, htables, hsame⟩
  · obtain ⟨h, hh, -⟩ := Link.isConnected_eq_true.mp hm
    have hbody := connected_of_connected hm body
    refine Or.inr ⟨m, h, hh, rfl, .refl _, ?_, ?_⟩
    · rw [final, final, hbody]
      exact .refl _
    · intro a ha
      rwa [outcome, ← hbody]
  · rw [outcome, final, connected_of_refused hrefused]
    exact Or.inl ⟨hsame, e, rfl⟩
  · refine Or.inr ⟨begun, h, hh, htables, hsame, ?_, ?_⟩
    · rw [final_connected hbegun]
      exact forceDisconnect_same hs _
    · intro a ha
      rw [outcome_connected hbegun] at ha
      exact settled_eq_ok ha

section Insertion

variable {h : b.Handle} {w w' : b.World} {t : Table} {table : s.Table} {collection : Option Int}
  {data : DataFile} {o : Except Error LoadOutcome} {texts : List Query}

theorem chooseId_fresh (hs : s.Truthful) (ht : s.table? t.name = some table)
    {answer : ResultSet} {id : Int}
    (hselect : b.select h (idStatement t collection).text w = (.ok answer, w'))
    (hid : chooseId t collection answer = .ok id) : id ∉ s.ids w table := by
  cases collection with
  | none =>
    obtain ⟨-, hanswer⟩ := hs.next h w t.name table ht
    rw [idStatement] at hselect
    rw [chooseId] at hid
    rcases hanswer answer (by rw [hselect]) with ⟨hnone, hsingle⟩ | ⟨n, hn, hsingle⟩
    · simp [hnone]
    · simp only [hsingle, Value.integer?, Except.ok.injEq] at hid
      intro hused
      have hle := hn.2 hused
      omega
  | some given =>
    obtain ⟨-, hanswer⟩ := hs.count h w t.name table given ht
    rw [idStatement] at hselect
    have hsingle := hanswer answer (by rw [hselect])
    simp only [chooseId, hsingle, Option.bind_some, Value.integer?, Option.getD_some] at hid
    split at hid
    · cases hid
    · rename_i hfree
      obtain rfl := Except.ok.inj hid
      rw [← Storage.under_eq_zero_iff, ← Multiset.card_eq_zero]
      omega

theorem select_idStatement_same (hs : s.Truthful) (ht : s.table? t.name = some table) (h : b.Handle)
    (w : b.World) (collection : Option Int) :
    s.Same w (b.select h (idStatement t collection).text w).2 := by
  cases collection with
  | none => exact (hs.next h w t.name table ht).1
  | some id => exact (hs.count h w t.name table id ht).1

/-- An insertion adds the rows of the file under an id that was not in use, or
fails and adds nothing. -/
theorem InsertionEnds.adds (hs : s.Truthful) (ht : s.table? t.name = some table)
    (hplain : ∀ c ∈ data.columns, PlainName c)
    (he : InsertionEnds h w t collection data o texts w') :
    (s.Same w w' ∧ ∃ e, o = .error e) ∨
    ∃ id added keys, o = .ok ⟨id, keys⟩ ∧ data.rows ≠ [] ∧ id ∉ s.ids w table ∧
      Multiset.Rel (s.Written (collectionColumn :: data.columns)) (data.rows.map (rowCells id))
        added ∧
      s.Adds w table added w' := by
  have hasked := select_idStatement_same hs ht h w collection
  cases he with
  | lost => exact Or.inl ⟨.refl w, _, rfl⟩
  | idRefused _ hselect =>
    rw [hselect] at hasked
    exact Or.inl ⟨hasked, _, rfl⟩
  | noId _ hselect =>
    rw [hselect] at hasked
    exact Or.inl ⟨hasked, _, rfl⟩
  | invalid _ hselect =>
    rw [hselect] at hasked
    exact Or.inl ⟨hasked, _, rfl⟩
  | lostSince _ hselect =>
    rw [hselect] at hasked
    exact Or.inl ⟨hasked, _, rfl⟩
  | @sent answer id statement v _ keys _ hselect hid hrows _ hupdate =>
    rw [hselect] at hasked
    obtain ⟨hcolumns, hne, hwidths, rfl⟩ := Sql.Statement.insert_eq_ok_iff.mp hrows
    have hread := Sql.readRows_insertRows t.name t.key id hcolumns hplain hne hwidths
    have hnames : ∀ c ∈ collectionColumn :: data.columns, PlainName c :=
      List.forall_mem_cons.mpr ⟨.collectionColumn, hplain⟩
    have hinsert := hs.insert h v t.name table _ _ _ ht hread hnames
    rw [hupdate] at hinsert
    rcases hinsert with ⟨⟨e, rfl⟩, hsame⟩ | ⟨ids, added, rfl, hadded, hadds⟩
    · exact Or.inl ⟨hasked.trans hsame, _, rfl⟩
    · exact Or.inr ⟨id, added, ids, rfl, hne, chooseId_fresh hs ht hselect hid, hadded,
        .of_same hasked hadds (.refl w')⟩

end Insertion

structure Loading (b : Backend) where
  manager : Manager b
  surroundings : Surroundings
  arguments : LoadArguments

namespace Loading

def answer (l : Loading b) (w : b.World) : Except Error LoadOutcome :=
  outcome (load l.surroundings l.arguments) (l.manager.moved w)

def after (l : Loading b) (w : b.World) : b.World :=
  (final (load l.surroundings l.arguments) (l.manager.moved w)).link.world

def run (ls : List (Loading b)) (w : b.World) : b.World :=
  ls.foldl (fun w l => l.after w) w

structure Fits (s : Storage b) (l : Loading b) : Prop where
  table : ∃ table, s.table? l.arguments.table = some table
  header : ∀ data, DataFile.read l.surroundings.files l.arguments.file = .ok data →
    ∀ c ∈ data.columns, PlainName c

/-- A load has added the rows of its file to a table under an id that was not in use. -/
structure Added (s : Storage b) (l : Loading b) (w : b.World) (table : s.Table) (data : DataFile)
    (id : Int) : Prop where
  named : s.table? l.arguments.table = some table
  file : DataFile.read l.surroundings.files l.arguments.file = .ok data
  rows : data.rows ≠ []
  fresh : id ∉ s.ids w table
  adds : ∃ added, Multiset.Rel (s.Written (collectionColumn :: data.columns))
    (data.rows.map (rowCells id)) added ∧ s.Adds w table added (l.after w)
  answer : ∀ o, l.answer w = .ok o → o.collection = id

theorem prepared_cases (l : Loading b) (w : b.World) :
    (l.after w = w ∧ ∃ e, l.answer w = .error e) ∨
    ∃ t data, t.name = l.arguments.table ∧ l.manager.tables.find? t.name = some t ∧
      DataFile.read l.surroundings.files l.arguments.file = .ok data ∧
      l.answer w = outcome (connected (insertCollection t l.arguments.collection data))
        (l.manager.moved w) ∧
      l.after w = (final (connected (insertCollection t l.arguments.collection data))
        (l.manager.moved w)).link.world := by
  have hload := load_apply l.surroundings l.arguments (l.manager.moved w)
  rw [answer, after, outcome, final, hload]
  cases hwork : loadWork l.surroundings l.arguments (l.manager.moved w) with
  | error e => exact Or.inl ⟨rfl, e, rfl⟩
  | ok body =>
    obtain ⟨t, data, ht, hfile, rfl⟩ := loadWork_eq_ok hwork
    have hname : t.name = l.arguments.table := Tables.name_of_find? ht
    rw [← hname] at ht
    exact Or.inr ⟨t, data, hname, ht, hfile, rfl, rfl⟩

/-- A load adds the rows of its file, or it fails and all rows stay as they are. -/
theorem same_or_added (hs : s.Truthful) {l : Loading b} (hl : l.Fits s) (w : b.World) :
    (s.Same w (l.after w) ∧ ∃ e, l.answer w = .error e) ∨
      ∃ table data id, Added s l w table data id := by
  obtain ⟨table, htable⟩ := hl.table
  rcases prepared_cases l w with ⟨hafter, hfailed⟩ | ⟨t, data, hname, ht, hfile, hanswer, hafter⟩
  · rw [hafter]
    exact Or.inl ⟨.refl w, hfailed⟩
  rcases connected_same hs (l.manager.moved w) (insertCollection t l.arguments.collection data)
    with ⟨hsame, hfailed⟩ | ⟨begun, h, hh, htables, hbefore, hbehind, hok⟩
  · rw [hafter, hanswer]
    exact Or.inl ⟨hsame, hfailed⟩
  have hbefore : s.Same w begun.link.world := hbefore
  have ht' : begun.tables.find? t.name = some t := by
    rw [htables]
    exact ht
  obtain ⟨o, texts, w', he, ho, hdone⟩ := insertCollection_ends hh ht' l.arguments.collection data
  rw [hdone, ← hafter] at hbehind
  rw [ho, ← hanswer] at hok
  have htable' : s.table? t.name = some table := by rw [hname, htable]
  rcases he.adds hs htable' (hl.header data hfile) with
    ⟨hsame, e, rfl⟩ | ⟨id, added, keys, rfl, hne, hfresh, hadded, hadds⟩
  · refine Or.inl ⟨(hbefore.trans hsame).trans hbehind, ?_⟩
    cases hfound : l.answer w with
    | error e => exact ⟨e, rfl⟩
    | ok found => cases hok found hfound
  · refine Or.inr ⟨table, data, id, htable, hfile, hne, ?_, ⟨added, hadded, ?_⟩, ?_⟩
    · rwa [← hbefore.ids table]
    · exact .of_same hbefore hadds hbehind
    · intro found hfound
      obtain rfl := Except.ok.inj (hok found hfound)
      rfl

section Added

variable {l : Loading b} {w : b.World} {table : s.Table} {data : DataFile} {id : Int}

theorem collection_of_written (hs : s.Truthful) {added : Multiset s.Row}
    (hadded : Multiset.Rel (s.Written (collectionColumn :: data.columns))
      (data.rows.map (rowCells id)) added) : ∀ row ∈ added, s.collection row = some id := by
  intro row hrow
  obtain ⟨values, hvalues, hwritten⟩ :=
    Multiset.exists_mem_of_rel_of_mem (Multiset.rel_flip.mpr hadded) hrow
  obtain ⟨words, -, rfl⟩ := List.mem_map.mp (Multiset.mem_coe.mp hvalues)
  exact hs.collection row id (hwritten (collectionColumn, some (.integer id)) (by
    rw [rowCells, List.zip_cons_cons]
    exact List.mem_cons_self))

theorem Added.under_id (hs : s.Truthful) (hl : Added s l w table data id) :
    Multiset.Rel (s.Written (collectionColumn :: data.columns)) (data.rows.map (rowCells id))
      (s.under (l.after w) table id) := by
  obtain ⟨added, hadded, hadds⟩ := hl.adds
  have hbefore : s.under w table id = 0 := Storage.under_eq_zero_iff.mpr hl.fresh
  have hall := Multiset.filter_eq_self.mpr (collection_of_written hs hadded)
  rw [Storage.under] at hbefore
  rwa [Storage.under, hadds.rows, Multiset.filter_add, hbefore, hall, Multiset.zero_add]

theorem Added.under_used (hs : s.Truthful) (hl : Added s l w table data id) {table' : s.Table}
    {n : Int} (hn : n ∈ s.ids w table') :
    s.under (l.after w) table' n = s.under w table' n := by
  obtain ⟨added, hadded, hadds⟩ := hl.adds
  by_cases hsame : table' = table
  · subst hsame
    have hne : id ≠ n := by
      rintro rfl
      exact hl.fresh hn
    have hnone : added.filter (fun row => s.collection row = some n) = 0 := by
      rw [Multiset.filter_eq_nil]
      intro row hrow hcollection
      rw [collection_of_written hs hadded row hrow] at hcollection
      exact hne (Option.some.inj hcollection)
    rw [Storage.under, hadds.rows, Multiset.filter_add, hnone, Multiset.add_zero, Storage.under]
  · rw [Storage.under, hadds.others table' hsame, Storage.under]

end Added

theorem under_after (hs : s.Truthful) {l : Loading b} (hl : l.Fits s) {w : b.World}
    {table : s.Table} {n : Int} (hn : n ∈ s.ids w table) :
    s.under (l.after w) table n = s.under w table n := by
  rcases same_or_added hs hl w with ⟨hsame, -⟩ | ⟨table', data, id, hadded⟩
  · exact hsame.under table n
  · exact hadded.under_used hs hn

theorem under_run (hs : s.Truthful) {ls : List (Loading b)} (hls : ∀ l ∈ ls, l.Fits s)
    {w : b.World} {table : s.Table} {n : Int} (hn : n ∈ s.ids w table) :
    s.under (run ls w) table n = s.under w table n := by
  induction ls generalizing w with
  | nil => rfl
  | cons l ls ih =>
    obtain ⟨hl, hls⟩ := List.forall_mem_cons.mp hls
    have hstep := under_after hs hl hn
    have hn' : n ∈ s.ids (l.after w) table := by
      by_contra hnone
      rw [← Storage.under_eq_zero_iff, hstep, Storage.under_eq_zero_iff] at hnone
      exact hnone hn
    calc s.under (run ls (l.after w)) table n
        = s.under (l.after w) table n := ih hls hn'
      _ = s.under w table n := hstep

theorem run_append (ls ls' : List (Loading b)) (w : b.World) :
    run (ls ++ ls') w = run ls' (run ls w) :=
  List.foldl_append

/-- The id that a load reports was not in use in its table before, and after all
loads the rows under it are those of the file of this load, as many and with the
same values. -/
theorem collections_kept_apart (hs : s.Truthful) (w : b.World) (before behind : List (Loading b))
    {l : Loading b} (hfits : ∀ l' ∈ before ++ l :: behind, l'.Fits s) {o : LoadOutcome}
    (ho : l.answer (run before w) = .ok o) :
    ∃ table data, s.table? l.arguments.table = some table ∧
      DataFile.read l.surroundings.files l.arguments.file = .ok data ∧
      (∀ row ∈ s.rows (run before w) table, s.collection row ≠ some o.collection) ∧
      Multiset.Rel (s.Written (collectionColumn :: data.columns))
        (data.rows.map (rowCells o.collection))
        (s.under (run (before ++ l :: behind) w) table o.collection) := by
  have hl : l.Fits s := hfits l (by simp)
  have hbehind : ∀ l' ∈ behind, l'.Fits s := fun l' hl' => hfits l' (by simp [hl'])
  rcases same_or_added hs hl (run before w) with ⟨-, e, he⟩ | ⟨table, data, id, hadded⟩
  · rw [ho] at he
    cases he
  obtain rfl := hadded.answer o ho
  refine ⟨table, data, hadded.named, hadded.file, ?_, ?_⟩
  · intro row hrow hcollection
    exact hadded.fresh ⟨row, hrow, hcollection⟩
  · have hrows := hadded.under_id hs
    -- There is a row under the id now, so that the later loads stay clear of it.
    have hused : o.collection ∈ s.ids (l.after (run before w)) table := by
      by_contra hnone
      rw [Storage.under_eq_zero_iff.mpr hnone, Multiset.rel_zero_right] at hrows
      simp [hadded.rows] at hrows
    have hrun : run (before ++ l :: behind) w = run behind (l.after (run before w)) := by
      rw [run_append]
      rfl
    rwa [hrun, under_run hs hbehind hused]

end Loading
end CommandLine

namespace Memory
open CommandLine

def manager : Manager backend :=
  Manager.afterwards Manager.getConditions
    [.configure Script.overlappingConfig,
     .setParameters ⟨"t1", "x", "hps_conditions_test", "localhost", 5432, "mock"⟩]
    (Manager.new .standard (.base Files.none []) [])

def channels (collection : Option Int) (lines : String) : Loading backend where
  manager := manager
  surroundings :=
    { files := fun _ => .text ("ecal_channel_id\n" ++ lines), user := "tester" }
  arguments := { table := "bad_channels", file := "channels.txt", collection }

def stored : State :=
  [⟨"bad_channels", [(collectionColumn, some (.integer 4)), ("ecal_channel_id", some (.text "3"))]⟩]

def loads : List (Loading backend) :=
  [channels none "5\n6\n", channels (some (-3)) "7\n 8\n", channels (some 5) "9\n",
   channels none "10\n"]

theorem loads_fit : ∀ l ∈ loads, l.Fits storage := by
  have hheader : ∀ l ∈ loads, (DataFile.read l.surroundings.files l.arguments.file).toOption.map
      DataFile.columns = some ["ecal_channel_id"] := by decide +kernel
  have htable : ∀ l ∈ loads, l.arguments.table = "bad_channels" := by decide
  intro l hl
  refine ⟨⟨"bad_channels", ?_⟩, fun data hdata => ?_⟩
  · rw [htable l hl]
    rfl
  · have hcolumns := hheader l hl
    rw [hdata] at hcolumns
    have hnames : data.columns = ["ecal_channel_id"] := Option.some.inj hcolumns
    rw [hnames]
    decide

theorem loads_kept_apart :
    loads.length = 4 ∧ (∀ l ∈ loads, l.Fits storage) ∧
      ((channels (some (-3)) "7\n 8\n").answer
        (Loading.run [channels none "5\n6\n"] stored)).toOption = some ⟨-3, [4, 5]⟩ ∧
      ∃ table data, table? "bad_channels" = some table ∧
        DataFile.read (channels (some (-3)) "7\n 8\n").surroundings.files "channels.txt" =
          .ok data ∧
        (∀ row ∈ storage.rows (Loading.run [channels none "5\n6\n"] stored) table,
          storage.collection row ≠ some (-3)) ∧
        Multiset.Rel (storage.Written (collectionColumn :: data.columns))
          (data.rows.map (rowCells (-3))) (storage.under (Loading.run loads stored) table (-3)) :=
  have hanswer : ((channels (some (-3)) "7\n 8\n").answer
      (Loading.run [channels none "5\n6\n"] stored)).toOption = some ⟨-3, [4, 5]⟩ := by
    decide +kernel
  ⟨rfl, loads_fit, hanswer, Loading.collections_kept_apart truthful stored
    [channels none "5\n6\n"] [channels (some 5) "9\n", channels none "10\n"] loads_fit
    (eq_ok_of_toOption hanswer)⟩

end Memory
end RunConditions
