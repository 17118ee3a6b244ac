import Mathlib.Data.List.Find
import Mathlib.Logic.Relation
import RunConditions.Proofs.RecordText
import RunConditions.Proofs.RowBuilding

/-!
# Rows in another layout

Rows are read by the names of columns only. In another order of the columns,
under names in other letter case, or next to columns that nobody asks for they
are read as before, and what is wrong with them is reported as before.
-/

set_option autoImplicit false

namespace RunConditions

theorem Text.sameLetters_congr {a b : String} (h : Text.sameLetters a b = true) (c : String) :
    Text.sameLetters a c = Text.sameLetters b c := by
  rw [Text.sameLetters, beq_iff_eq] at h
  rw [Text.sameLetters, Text.sameLetters, h]

/-- What stands at these places of a list, in the order of the places. -/
def pick {α : Type} (places : List Nat) (xs : List α) : List α :=
  places.filterMap (xs[·]?)

section Pick

variable {α β : Type} {places : List Nat} {xs : List α} {ys : List β}

theorem pick_range (xs : List α) : pick (List.range xs.length) xs = xs := by
  rw [pick]
  induction xs with
  | nil => rfl
  | cons x xs ih =>
    rw [List.length_cons, List.range_succ_eq_map]
    simpa [List.filterMap_map, Function.comp_def] using ih

theorem length_pick (h : ∀ i ∈ places, i < xs.length) :
    (pick places xs).length = places.length := by
  rw [pick, List.length_filterMap_eq_countP, List.countP_eq_length]
  intro i hi
  simpa using h i hi

theorem pick_perm (h : places.Perm (List.range xs.length)) : (pick places xs).Perm xs := by
  have hperm := h.filterMap (xs[·]?)
  rwa [← pick, ← pick, pick_range] at hperm

theorem pick_zip (hx : ∀ i ∈ places, i < xs.length) (hy : ∀ i ∈ places, i < ys.length) :
    pick places (xs.zip ys) = (pick places xs).zip (pick places ys) := by
  induction places with
  | nil => rfl
  | cons i places ih =>
    obtain ⟨hxi, hx⟩ := List.forall_mem_cons.mp hx
    obtain ⟨hyi, hy⟩ := List.forall_mem_cons.mp hy
    have hzip : (xs.zip ys)[i]? = some (xs[i], ys[i]) := by
      simp [hxi, hyi]
    simp only [pick] at ih ⊢
    rw [List.filterMap_cons_some hzip, List.filterMap_cons_some (List.getElem?_eq_getElem hxi),
      List.filterMap_cons_some (List.getElem?_eq_getElem hyi), ih hx hy, List.zip_cons_cons]

theorem find?_of_perm {p : α → Bool} {xs' : List α} (h : xs.Perm xs')
    (hone : (xs.filter p).length ≤ 1) : xs'.find? p = xs.find? p := by
  have hfilter := h.filter p
  rw [← List.head?_filter, ← List.head?_filter]
  match hxs : xs.filter p with
  | [] =>
    rw [hxs] at hfilter
    rw [List.nil_perm.mp hfilter]
  | [x] =>
    rw [hxs] at hfilter
    rw [List.perm_singleton.mp hfilter.symm]
  | _ :: _ :: _ =>
    rw [hxs] at hone
    simp at hone

end Pick

def cell? (columns : List String) (row : List (Option Value)) (name : String) :
    Option (Option Value) :=
  (columns.findIdx? (Text.sameLetters · name)).map (cellAt row)

section Cell

variable {columns : List String} {row : List (Option Value)} {name : String}

theorem isSome_cell?_iff (row : List (Option Value)) :
    (cell? columns row name).isSome = true ↔ HasColumn columns name := by
  rw [cell?, Option.isSome_map]
  exact @ResultSet.isSome_column?_iff ⟨columns, []⟩ name

theorem get_eq_cell? {f : Fields} (hrow : f.result.rows[f.row]? = some row) (name : String) :
    f.get name =
      match cell? f.result.columns row name with
      | none => .error (.configuration (.noField name f.table))
      | some cell => .ok cell := by
  cases hcolumn : f.result.column? name with
  | none =>
    have hnone : cell? f.result.columns row name = none := by
      rw [cell?, Option.map_eq_none_iff]
      exact hcolumn
    rw [Fields.get_of_no_column (ResultSet.column?_eq_none_iff.mp hcolumn), hnone]
  | some i =>
    have hsome : cell? f.result.columns row name = some (cellAt row i) := by
      rw [cell?, Option.map_eq_some_iff]
      exact ⟨i, hcolumn, rfl⟩
    rw [Fields.get_of_firstColumn hrow (ResultSet.column?_eq_some_iff.mp hcolumn), hsome]

theorem cell?_eq_find? (hwidth : row.length = columns.length) (name : String) :
    cell? columns row name =
      ((columns.zip row).find? fun p => Text.sameLetters p.1 name).map Prod.snd := by
  induction columns generalizing row with
  | nil => rfl
  | cons c columns ih =>
    cases row with
    | nil => cases hwidth
    | cons v row =>
      rw [List.zip_cons_cons, List.find?_cons, cell?, List.findIdx?_cons]
      by_cases hc : Text.sameLetters c name = true
      · simp only [hc, if_true]
        rfl
      · simp only [hc, Bool.false_eq_true, if_false, Option.map_map]
        exact ih (Nat.succ.inj hwidth)

theorem cell?_pick {places : List Nat} (hplaces : places.Perm (List.range columns.length))
    (hwidth : row.length = columns.length)
    (hone : (columns.filter (Text.sameLetters · name)).length ≤ 1) :
    cell? (pick places columns) (pick places row) name = cell? columns row name := by
  have hnames : (columns.zip row).map Prod.fst = columns :=
    List.map_fst_zip (Nat.le_of_eq hwidth.symm)
  have hlength : (columns.zip row).length = columns.length := by
    rw [← List.length_map, hnames]
  have hbelow : ∀ i ∈ places, i < columns.length := fun i hi =>
    List.mem_range.mp (hplaces.mem_iff.mp hi)
  have hperm : (pick places (columns.zip row)).Perm (columns.zip row) :=
    pick_perm (by rwa [hlength])
  have hbelow' : ∀ i ∈ places, i < row.length := hwidth ▸ hbelow
  have hpicked : (pick places row).length = (pick places columns).length := by
    rw [length_pick hbelow, length_pick hbelow']
  rw [cell?_eq_find? hpicked, cell?_eq_find? hwidth, ← pick_zip hbelow hbelow',
    find?_of_perm hperm.symm]
  rwa [← hnames, List.filter_map, List.length_map] at hone

theorem cell?_recased {columns' : List String}
    (h : List.Forall₂ (fun c c' => Text.sameLetters c c' = true) columns columns')
    (row : List (Option Value)) (name : String) :
    cell? columns row name = cell? columns' row name := by
  have hplace : columns.findIdx? (Text.sameLetters · name) =
      columns'.findIdx? (Text.sameLetters · name) := by
    induction h with
    | nil => rfl
    | cons hc _ ih => rw [List.findIdx?_cons, List.findIdx?_cons, Text.sameLetters_congr hc, ih]
  rw [cell?, cell?, hplace]

theorem length_filter_recased {columns' : List String}
    (h : List.Forall₂ (fun c c' => Text.sameLetters c c' = true) columns columns')
    (name : String) :
    (columns.filter (Text.sameLetters · name)).length =
      (columns'.filter (Text.sameLetters · name)).length := by
  induction h with
  | nil => rfl
  | cons hc _ ih =>
    rw [List.filter_cons, List.filter_cons, Text.sameLetters_congr hc]
    split
    · rw [List.length_cons, List.length_cons, ih]
    · exact ih

theorem cell?_widened {before after : List String} {left right : List (Option Value)}
    {added : String} (hleft : left.length = before.length) (hright : right.length = after.length)
    (v : Option Value) (hadded : Text.sameLetters added name = false) :
    cell? (before ++ after) (left ++ right) name =
      cell? (before ++ added :: after) (left ++ v :: right) name := by
  rw [cell?_eq_find? (by simp [hleft, hright]), cell?_eq_find? (by simp [hleft, hright]),
    List.zip_append hleft.symm, List.zip_append hleft.symm, List.find?_append, List.find?_append,
    List.zip_cons_cons, List.find?_cons, hadded]

end Cell

namespace ResultSet

/-- What can be done to the layout of a result set that is read by these names. -/
inductive Relaid (names : List String) : ResultSet → ResultSet → Prop
  | permuted {columns : List String} {rows : List (List (Option Value))} {places : List Nat}
      (h : places.Perm (List.range columns.length)) :
      Relaid names ⟨columns, rows⟩ ⟨pick places columns, rows.map (pick places)⟩
  | recased {columns columns' : List String} {rows : List (List (Option Value))}
      (h : List.Forall₂ (fun c c' => Text.sameLetters c c' = true) columns columns') :
      Relaid names ⟨columns, rows⟩ ⟨columns', rows⟩
  /-- There is one more column, which is not read, and every row has some value more in its
  place. -/
  | widened {before after : List String} {name : String} {rows rows' : List (List (Option Value))}
      (hname : ∀ n ∈ names, Text.sameLetters name n = false)
      (hrows : List.Forall₂ (fun row row' => ∃ left v right, left.length = before.length ∧
        row = left ++ right ∧ row' = left ++ v :: right) rows rows') :
      Relaid names ⟨before ++ after, rows⟩ ⟨before ++ name :: after, rows'⟩

/-- Rows are as wide as the header, and no two columns have one of these names. -/
structure Legible (names : List String) (result : ResultSet) : Prop where
  width : ∀ row ∈ result.rows, row.length = result.columns.length
  single : ∀ name ∈ names, (result.columns.filter (Text.sameLetters · name)).length ≤ 1

/-- Row by row the same cells stand under these names. -/
def SameCells (names : List String) (result result' : ResultSet) : Prop :=
  List.Forall₂ (fun row row' => ∀ name ∈ names,
    cell? result.columns row name = cell? result'.columns row' name) result.rows result'.rows

variable {names : List String} {result result' : ResultSet}

theorem legible_of_distinct (names : List String)
    (hwidth : ∀ row ∈ result.rows, row.length = result.columns.length)
    (hdistinct : Distinct result.columns) : result.Legible names := by
  refine ⟨hwidth, fun name _ => ?_⟩
  have hnamed : ∀ c ∈ result.columns.filter (Text.sameLetters · name),
      Text.sameLetters c name = true := fun c hc => (List.mem_filter.mp hc).2
  have hpairwise : Distinct (result.columns.filter (Text.sameLetters · name)) := hdistinct.filter _
  match hfilter : result.columns.filter (Text.sameLetters · name) with
  | [] => simp
  | [c] => simp
  | c :: c' :: rest =>
    rw [hfilter] at hnamed hpairwise
    have hdiffer : Text.sameLetters c c' = false :=
      (List.pairwise_cons.mp hpairwise).1 c' List.mem_cons_self
    rw [Text.sameLetters_congr (hnamed c List.mem_cons_self), Text.sameLetters_comm,
      hnamed c' (by simp)] at hdiffer
    cases hdiffer

theorem Relaid.legible (h : Relaid names result result') (hl : result.Legible names) :
    result'.Legible names := by
  obtain ⟨hwidth, hsingle⟩ := hl
  cases h with
  | @permuted columns rows places hplaces =>
    have hbelow : ∀ i ∈ places, i < columns.length := fun i hi =>
      List.mem_range.mp (hplaces.mem_iff.mp hi)
    refine ⟨fun row' hrow' => ?_, fun name hname => ?_⟩
    · obtain ⟨row, hrow, rfl⟩ := List.mem_map.mp hrow'
      have hrow := hwidth row hrow
      dsimp only at hrow ⊢
      rw [length_pick hbelow, length_pick (hrow ▸ hbelow)]
    · have hperm := (pick_perm hplaces).filter (Text.sameLetters · name)
      rw [hperm.length_eq]
      exact hsingle name hname
  | recased hcolumns =>
    refine ⟨fun row hrow => (hwidth row hrow).trans hcolumns.length_eq, fun name hname => ?_⟩
    rw [← length_filter_recased hcolumns name]
    exact hsingle name hname
  | @widened before after name rows rows' hname hrows =>
    refine ⟨fun row' hrow' => ?_, fun n hn => ?_⟩
    · obtain ⟨row, hrow, left, v, right, -, rfl, rfl⟩ := exists_of_forall₂ hrows hrow'
      have hrow := hwidth _ hrow
      simp only [List.length_append, List.length_cons] at hrow ⊢
      omega
    · have hsame := hsingle n hn
      simpa [List.filter_append, hname n hn] using hsame

theorem Relaid.sameCells (h : Relaid names result result') (hl : result.Legible names) :
    SameCells names result result' := by
  obtain ⟨hwidth, hsingle⟩ := hl
  cases h with
  | @permuted columns rows places hplaces =>
    have hbelow : ∀ i ∈ places, i < columns.length := fun i hi =>
      List.mem_range.mp (hplaces.mem_iff.mp hi)
    rw [SameCells, List.forall₂_map_right_iff, List.forall₂_same]
    intro row hrow name hname
    exact (cell?_pick hplaces (hwidth row hrow) (hsingle name hname)).symm
  | recased hcolumns =>
    rw [SameCells, List.forall₂_same]
    intro row _ name _
    exact cell?_recased hcolumns row name
  | @widened before after _ _ _ hname hrows =>
    refine ((List.forall₂_and_left _ _).mpr ⟨hwidth, hrows⟩).imp ?_
    rintro _ _ ⟨hrow, left, v, right, hleft, rfl, rfl⟩ n hn
    have hright : right.length = after.length := by
      simp only [List.length_append] at hrow
      omega
    exact cell?_widened hleft hright v (hname n hn)

end ResultSet

namespace Table

def names (t : Table) (r : RowType) : List String :=
  t.fields ++ (r.layout t.key).map Prod.fst

variable {t : Table} {r : RowType} {result result' : ResultSet}

theorem readRow_of_sameCells {columns columns' : List String} {row row' : List (Option Value)}
    (h : ∀ name ∈ t.names r, cell? columns row name = cell? columns' row' name) :
    t.readRow r columns row = t.readRow r columns' row' := by
  refine r.read_congr rfl rfl fun part hpart => ?_
  have hname : part.1 ∈ t.names r := List.mem_append_right _ (List.mem_map_of_mem hpart)
  rw [get_eq_cell? (f := t.fieldsOf ⟨columns, [row]⟩ 0) rfl,
    get_eq_cell? (f := t.fieldsOf ⟨columns', [row']⟩ 0) rfl]
  show (match cell? columns row part.1 with | none => _ | some cell => _) = _
  rw [h part.1 hname]
  rfl

section SameCells

variable (h : result.SameCells (t.names r) result')

include h

theorem missingField?_of_sameCells (hrows : result.rows ≠ []) :
    t.missingField? result' = t.missingField? result := by
  obtain ⟨row, hrow⟩ := List.exists_mem_of_ne_nil _ hrows
  obtain ⟨row', -, hcells⟩ := exists_of_forall₂ h.flip hrow
  apply List.find?_congr
  intro field hfield
  have hname : field ∈ t.names r := List.mem_append_left _ hfield
  rw [← Option.not_isSome, ← Option.not_isSome, Bool.not_inj_iff, Bool.eq_iff_iff]
  rw [ResultSet.isSome_column?_iff, ResultSet.isSome_column?_iff,
    ← isSome_cell?_iff row', ← isSome_cell?_iff row, hcells field hname]

theorem readRows_of_sameCells : result'.rows.mapM (t.readRow r result'.columns) =
    result.rows.mapM (t.readRow r result.columns) :=
  (mapM_eq_mapM (h.imp fun _ _ hcells => readRow_of_sameCells hcells)).symm

theorem read_of_sameCells : t.read r result' = t.read r result := by
  by_cases hrows : result.rows = []
  · have hrows' : result'.rows = [] := by
      rwa [ResultSet.SameCells, hrows, List.forall₂_nil_left_iff] at h
    rw [read_of_no_rows hrows, read_of_no_rows hrows']
  · have hrows' : result'.rows ≠ [] := by
      intro hrows'
      rw [ResultSet.SameCells, hrows', List.forall₂_nil_right_iff] at h
      exact hrows h
    have hsame := missingField?_of_sameCells h hrows
    cases hmissing : t.missingField? result with
    | some field =>
      rw [read_of_missing hrows hmissing, read_of_missing hrows' (hsame.trans hmissing)]
    | none =>
      rw [read_of_fields hrows (missingField?_eq_none_iff.mp hmissing),
        read_of_fields hrows' (missingField?_eq_none_iff.mp (hsame.trans hmissing)),
        readRows_of_sameCells h]

end SameCells

/-- Rows are read by the names of columns only. Whatever is done to the layout of a result set
whose rows are as wide as its header and whose columns have different names, it is read as the
same collection, or refused with the same error. -/
theorem read_relaid (t : Table) (r : RowType) {result result' : ResultSet}
    (hwidth : ∀ row ∈ result.rows, row.length = result.columns.length)
    (hdistinct : Distinct result.columns)
    (h : Relation.ReflTransGen (ResultSet.Relaid (t.names r)) result result') :
    t.read r result' = t.read r result := by
  -- each change keeps that the rows can be read by these names
  have hall : result'.Legible (t.names r) ∧ t.read r result' = t.read r result := by
    induction h with
    | refl => exact ⟨ResultSet.legible_of_distinct _ hwidth hdistinct, rfl⟩
    | tail _ hstep ih =>
      obtain ⟨hl, hread⟩ := ih
      have hl' := hstep.legible hl
      exact ⟨hl', (read_of_sameCells (hstep.sameCells hl)).trans hread⟩
  exact hall.2

def badChannelTable : Table :=
  ⟨"bad_channels", "id", .channel .badChannel, "", "", ["ecal_channel_id"]⟩

def channelRows : ResultSet :=
  ⟨["id", "ecal_channel_id"],
   [[some (.integer 1), some (.integer 5)], [some (.integer 2), some (.integer 7)]]⟩

def relaidRows : ResultSet :=
  ⟨["ECAL_channel_id", "note", "Id"],
   [[some (.integer 5), some (.text "hot"), some (.integer 1)],
    [some (.integer 7), none, some (.integer 2)]]⟩

theorem channelRows_relaid :
    (∀ row ∈ channelRows.rows, row.length = channelRows.columns.length) ∧
      Distinct channelRows.columns ∧
      Relation.ReflTransGen (ResultSet.Relaid (badChannelTable.names (.channel .badChannel)))
        channelRows relaidRows ∧
      badChannelTable.read (.channel .badChannel) relaidRows =
        badChannelTable.read (.channel .badChannel) channelRows ∧
      badChannelTable.read (.channel .badChannel) channelRows =
        .ok { rows := [⟨1, 5, []⟩, ⟨2, 7, []⟩] } := by
  have hwidth : ∀ row ∈ channelRows.rows, row.length = channelRows.columns.length := by decide
  have hdistinct : Distinct channelRows.columns := by
    rw [Distinct]
    decide
  have hrelaid : Relation.ReflTransGen
      (ResultSet.Relaid (badChannelTable.names (.channel .badChannel))) channelRows relaidRows := by
    have hplaces : [1, 0].Perm (List.range channelRows.columns.length) := List.Perm.swap 0 1 []
    have hcolumns : List.Forall₂ (fun c c' => Text.sameLetters c c' = true)
        ["ecal_channel_id", "id"] ["ECAL_channel_id", "Id"] :=
      .cons (by decide) (.cons (by decide) .nil)
    have hnote : ResultSet.Relaid (badChannelTable.names (.channel .badChannel))
        ⟨["ECAL_channel_id"] ++ ["Id"],
         [[some (.integer 5), some (.integer 1)], [some (.integer 7), some (.integer 2)]]⟩
        relaidRows := by
      refine .widened (by decide) ?_
      exact .cons ⟨[some (.integer 5)], some (.text "hot"), [some (.integer 1)], rfl, rfl, rfl⟩
        (.cons ⟨[some (.integer 7)], none, [some (.integer 2)], rfl, rfl, rfl⟩ .nil)
    exact .tail (.tail (.single (.permuted hplaces)) (.recased hcolumns)) hnote
  exact ⟨hwidth, hdistinct, hrelaid, read_relaid _ _ hwidth hdistinct hrelaid, rfl⟩

end Table

end RunConditions
