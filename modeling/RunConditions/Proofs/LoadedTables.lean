import Mathlib.Data.List.Induction
import Mathlib.Data.List.Nodup
import RunConditions.Proofs.NamedTypes

/-!
# Tables of a configuration

Tables are all right as long as each has a new name and types that stand for
rows of one type. They are then loaded one for one, and otherwise the first one
that is not all right is the reason why none is.
-/

set_option autoImplicit false

namespace RunConditions

namespace TableDescriptor

/-- One type of the table stands for this collection type and the other for its rows. -/
structure HasRows (types : Types) (d : TableDescriptor) (c : CollectionType) : Prop where
  object : types.find? d.objectType = some (.object c.row)
  collection : types.find? d.collectionType = some (.collection c)

/-- The first thing that is wrong with a table that comes after others. -/
inductive Faulty (types : Types) (earlier : List TableDescriptor) (d : TableDescriptor) :
    Error → Prop
  | duplicate (h : d.name ∈ earlier.map name) :
      Faulty types earlier d (.configuration (.duplicateTable d.name))
  | object {e : Error} (hnew : d.name ∉ earlier.map name)
      (h : types.Misnamed d.objectType .object e) : Faulty types earlier d e
  | collection {r : RowType} {e : Error} (hnew : d.name ∉ earlier.map name)
      (hobject : types.find? d.objectType = some (.object r))
      (h : types.Misnamed d.collectionType .collection e) : Faulty types earlier d e
  | rows {r : RowType} {c : CollectionType} (hnew : d.name ∉ earlier.map name)
      (hobject : types.find? d.objectType = some (.object r))
      (hcollection : types.find? d.collectionType = some (.collection c)) (h : c.row ≠ r) :
      Faulty types earlier d (.configuration (.rowMismatch d.collectionType d.name d.objectType))

structure AllSound (types : Types) (ds : List TableDescriptor) : Prop where
  distinct : (ds.map name).Nodup
  rows : ∀ d ∈ ds, ∃ c, d.HasRows types c

structure For (types : Types) (d : TableDescriptor) (t : Table) : Prop where
  name : t.name = d.name
  key : t.key = d.key
  objectName : t.objectName = d.objectType
  collectionName : t.collectionName = d.collectionType
  fields : t.fields = d.fields
  rows : d.HasRows types t.collection

/-- The collections of the table are conditions records. -/
def HoldsRecords (types : Types) (d : TableDescriptor) : Prop :=
  types.find? d.collectionType = some (.collection .record)

variable {types : Types} {earlier ds : List TableDescriptor} {d : TableDescriptor}

theorem hasRows_or_faulty (types : Types) (earlier : List TableDescriptor)
    (d : TableDescriptor) :
    (d.name ∉ earlier.map name ∧ ∃ c, d.HasRows types c) ∨ ∃ e, d.Faulty types earlier e := by
  by_cases hnew : d.name ∈ earlier.map name
  · exact Or.inr ⟨_, .duplicate hnew⟩
  rcases types.object_or_misnamed d.objectType with ⟨r, hobject⟩ | ⟨e, he⟩
  · rcases types.collection_or_misnamed d.collectionType with ⟨c, hcollection⟩ | ⟨e, he⟩
    · by_cases hr : c.row = r
      · subst hr
        exact Or.inl ⟨hnew, c, hobject, hcollection⟩
      · exact Or.inr ⟨_, .rows hnew hobject hcollection hr⟩
    · exact Or.inr ⟨e, .collection hnew hobject he⟩
  · exact Or.inr ⟨e, .object hnew he⟩

theorem AllSound.nil : AllSound types [] where
  distinct := List.nodup_nil
  rows _ hd := by cases hd

theorem allSound_concat_iff :
    AllSound types (ds ++ [d]) ↔
      AllSound types ds ∧ d.name ∉ ds.map name ∧ ∃ c, d.HasRows types c := by
  have hnames : ((ds ++ [d]).map name).Nodup ↔ (ds.map name).Nodup ∧ d.name ∉ ds.map name := by
    rw [List.map_append, List.nodup_append_comm, List.map_cons, List.map_nil,
      List.singleton_append, List.nodup_cons]
    exact And.comm
  constructor
  · intro h
    obtain ⟨hdistinct, hnew⟩ := hnames.mp h.distinct
    exact ⟨⟨hdistinct, fun d' hd' => h.rows d' (List.mem_append_left _ hd')⟩, hnew,
      h.rows d (by simp)⟩
  · rintro ⟨h, hnew, hd⟩
    refine ⟨hnames.mpr ⟨h.distinct, hnew⟩, ?_⟩
    intro d' hd'
    rcases List.mem_append.mp hd' with hd' | hd'
    · exact h.rows d' hd'
    · rw [List.mem_singleton.mp hd']
      exact hd

theorem allSound_or_faulty (types : Types) (ds : List TableDescriptor) :
    AllSound types ds ∨ ∃ before d after e,
      ds = before ++ d :: after ∧ AllSound types before ∧ d.Faulty types before e := by
  induction ds using List.reverseRecOn with
  | nil => exact Or.inl .nil
  | append_singleton ds d ih =>
    rcases ih with hds | ⟨before, d', after, e, rfl, hbefore, hd'⟩
    · rcases hasRows_or_faulty types ds d with ⟨hnew, hrows⟩ | ⟨e, he⟩
      · exact Or.inl (allSound_concat_iff.mpr ⟨hds, hnew, hrows⟩)
      · exact Or.inr ⟨ds, d, [], e, rfl, hds, he⟩
    · exact Or.inr ⟨before, d', after ++ [d], e, by simp, hbefore, hd'⟩

end TableDescriptor

namespace Tables

open TableDescriptor (AllSound HoldsRecords)

variable {types : Types} {earlier ds : List TableDescriptor} {d : TableDescriptor} {ts : Tables}

def Are (types : Types) (ds : List TableDescriptor) (ts : Tables) : Prop :=
  List.Forall₂ (TableDescriptor.For types) ds ts.list

theorem Are.names (h : Are types earlier ts) :
    ts.list.map Table.name = earlier.map TableDescriptor.name := by
  unfold Are at h
  generalize ts.list = tables at h
  induction h with
  | nil => rfl
  | cons hd _ ih => rw [List.map_cons, List.map_cons, hd.name, ih]

theorem Are.isSome_find? (h : Are types earlier ts) (name : String) :
    (ts.find? name).isSome = true ↔ name ∈ earlier.map TableDescriptor.name := by
  rw [← h.names, find?, List.find?_isSome]
  simp

theorem Are.isSome_find?_of_new (h : Are types earlier ts)
    (hnew : d.name ∉ earlier.map TableDescriptor.name) : (ts.find? d.name).isSome = false := by
  rw [Bool.eq_false_iff]
  intro hsome
  exact hnew ((h.isSome_find? d.name).mp hsome)

theorem Are.concat (h : Are types ds ts) {t : Table} (ht : d.For types t) :
    Are types (ds ++ [d]) ⟨ts.list ++ [t]⟩ :=
  List.rel_append h (.cons ht .nil)

theorem resolve_of_hasRows (h : Are types earlier ts)
    (hnew : d.name ∉ earlier.map TableDescriptor.name) {c : CollectionType}
    (hd : d.HasRows types c) : ∃ t, ts.resolve types d = .ok t ∧ d.For types t := by
  refine ⟨⟨d.name, d.key, c, d.objectType, d.collectionType, d.fields⟩, ?_,
    rfl, rfl, rfl, rfl, rfl, hd⟩
  simp only [resolve, h.isSome_find?_of_new hnew, Types.object_of_find? hd.object,
    Types.collection_of_find? hd.collection, Bool.false_eq_true, if_false, bind, Except.bind,
    ne_eq, not_true_eq_false, pure, Except.pure]

theorem resolve_of_faulty (h : Are types earlier ts) {e : Error} (hd : d.Faulty types earlier e) :
    ts.resolve types d = .error e := by
  cases hd with
  | duplicate hmem =>
    simp only [resolve, (h.isSome_find? d.name).mpr hmem]
    rfl
  | object hnew he =>
    simp only [resolve, h.isSome_find?_of_new hnew, he.object]
    rfl
  | collection hnew hobject he =>
    simp only [resolve, h.isSome_find?_of_new hnew, Types.object_of_find? hobject, he.collection]
    rfl
  | rows hnew hobject hcollection hr =>
    simp only [resolve, h.isSome_find?_of_new hnew, Types.object_of_find? hobject,
      Types.collection_of_find? hcollection, Bool.false_eq_true, if_false, bind, Except.bind,
      ne_eq, hr, not_false_eq_true, if_true]
    rfl

theorem load_append (types : Types) (ds ds' : List TableDescriptor) :
    load types (ds ++ ds') = load types ds >>= fun ts =>
      ds'.foldlM (fun ts d => do return ⟨ts.list ++ [← ts.resolve types d]⟩) ts := by
  rw [load, List.foldlM_append]
  rfl

/-- Sound tables are loaded one for one. -/
theorem load_of_allSound (h : AllSound types ds) :
    ∃ ts, load types ds = .ok ts ∧ Are types ds ts := by
  -- A table is checked against those before it, so the induction takes the last one off.
  induction ds using List.reverseRecOn with
  | nil => exact ⟨{}, rfl, .nil⟩
  | append_singleton ds d ih =>
    obtain ⟨hds, hnew, c, hd⟩ := TableDescriptor.allSound_concat_iff.mp h
    obtain ⟨ts, hts, hare⟩ := ih hds
    obtain ⟨t, ht, hfor⟩ := resolve_of_hasRows hare hnew hd
    refine ⟨⟨ts.list ++ [t]⟩, ?_, hare.concat hfor⟩
    rw [load_append, hts]
    simp only [bind, Except.bind, List.foldlM_cons, ht]
    rfl

theorem load_of_faulty {before after : List TableDescriptor} (h : AllSound types before)
    {e : Error} (hd : d.Faulty types before e) : load types (before ++ d :: after) = .error e := by
  obtain ⟨ts, hts, hare⟩ := load_of_allSound h
  rw [load_append, hts]
  simp only [bind, Except.bind, List.foldlM_cons, resolve_of_faulty hare hd]

theorem collection_eq_record_iff {d : TableDescriptor} {t : Table} (h : d.For types t) :
    t.collection = .record ↔ HoldsRecords types d := by
  rw [HoldsRecords, h.rows.collection]
  simp

theorem Are.ofCollection?_record (h : Are types ds ts) (hd : ∃ d ∈ ds, HoldsRecords types d) :
    ∃ t before d after, ts.ofCollection? .record = some t ∧ ds = before ++ d :: after ∧
      (∀ d' ∈ before, ¬ HoldsRecords types d') ∧ HoldsRecords types d ∧ t.name = d.name := by
  rw [ofCollection?]
  unfold Are at h
  generalize ts.list = tables at h ⊢
  induction h with
  | nil =>
    obtain ⟨d, hd, -⟩ := hd
    cases hd
  | @cons d t ds tables hfor hrest ih =>
    by_cases hrecord : t.collection = .record
    · refine ⟨t, [], d, ds, by simp [hrecord], rfl, ?_, (collection_eq_record_iff hfor).mp hrecord,
        hfor.name⟩
      intro d' hd'
      cases hd'
    · have hnot : ¬ HoldsRecords types d :=
        fun hd => hrecord ((collection_eq_record_iff hfor).mpr hd)
      rw [List.exists_mem_cons_iff, or_iff_right hnot] at hd
      obtain ⟨t', before, d', after, hfind, rfl, hbefore, hd', hname⟩ := ih hd
      refine ⟨t', d :: before, d', after, ?_, rfl, List.forall_mem_cons.mpr ⟨hnot, hbefore⟩, hd',
        hname⟩
      rw [List.find?_cons, beq_eq_false_iff_ne.mpr hrecord]
      exact hfind

theorem Are.ofCollection?_record_of_none (h : Are types ds ts)
    (hd : ∀ d ∈ ds, ¬ HoldsRecords types d) : ts.ofCollection? .record = none := by
  rw [ofCollection?]
  unfold Are at h
  generalize ts.list = tables at h ⊢
  induction h with
  | nil => rfl
  | @cons d t ds tables hfor hrest ih =>
    obtain ⟨hnot, hds⟩ := List.forall_mem_cons.mp hd
    have hrecord : t.collection ≠ .record :=
      fun hrecord => hnot ((collection_eq_record_iff hfor).mp hrecord)
    rw [List.find?_cons, beq_eq_false_iff_ne.mpr hrecord]
    exact ih hds

end Tables

end RunConditions
