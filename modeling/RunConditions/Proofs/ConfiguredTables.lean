import Mathlib.Data.List.Forall2
import RunConditions.Proofs.Alike
import RunConditions.Proofs.Draft
import RunConditions.Proofs.Outline

/-!
# Tables of an accepted document

A table is configured where an element `table` stands directly inside an element
`tables`. As long as no configured table holds another one, each that ends is
described with what is written in it, and one that the text leaves open is not
there.
-/

set_option autoImplicit false

namespace RunConditions.Config
open Xml

def isTable (s : Start) : Bool :=
  s.isIn "tables" "table"

def tagsIn (outer inner : String) (starts : List Start) : List Tag :=
  (starts.filter (·.isIn outer inner)).map Start.tag

/-- The table is that of the tag and of the elements that start inside. Where a class
is given more than once the last one counts. -/
structure Describes (tag : Tag) (starts : List Start) (t : PartialTable) : Prop where
  name : requiredAttribute tag "table" "name" = .ok t.name
  key : requiredAttribute tag "table" "key" = .ok t.key
  object : (tagsIn "classes" "object" starts).getLast?.map (requiredAttribute · "object" "class") =
    t.objectType.map .ok
  collection : (tagsIn "classes" "collection" starts).getLast?.map
    (requiredAttribute · "collection" "class") = t.collectionType.map .ok
  fields : (tagsIn "fields" "field" starts).map (requiredAttribute · "field" "name") =
    t.fields.map .ok

def complete (d : TableDescriptor) : PartialTable :=
  ⟨d.name, d.key, some d.objectType, some d.collectionType, d.fields⟩

def DescribesElement (e : Start × Content) (d : TableDescriptor) : Prop :=
  Describes e.1.tag (e.2.starts (some e.1.tag.name)) (complete d)

/-- No configured table that has ended holds another one, and one that is open at the
end of the text holds no element called `table`. -/
structure Separate (around : Option String) (doc : Outline) : Prop where
  ended : ∀ e ∈ doc.elements around, isTable e.1 = true →
    ∀ s ∈ e.2.starts (some e.1.tag.name), isTable s = false
  unended : ∀ e ∈ doc.unended around, isTable e.1 = true →
    ∀ s ∈ e.2.starts (some e.1.tag.name), s.tag.name ≠ "table"

def configured (doc : Outline) : List (Start × Content) :=
  (doc.elements none).filter (isTable ·.1)

section Describing

variable {tag : Tag} {starts : List Start} {s : Start} {t : PartialTable}
  {before : List TableDescriptor} {d d' : Draft} {name : String}

theorem tagsIn_concat (outer inner : String) (starts : List Start) (s : Start) :
    tagsIn outer inner (starts ++ [s]) =
      tagsIn outer inner starts ++ if s.isIn outer inner then [s.tag] else [] := by
  by_cases h : s.isIn outer inner = true <;> simp [tagsIn, h]

theorem finish_eq_ok_iff {described : TableDescriptor} :
    t.finish = .ok described ↔ t = complete described := by
  obtain ⟨name, key, object, collection, fields⟩ := t
  obtain ⟨name', key', object', collection', fields'⟩ := described
  cases object <;> cases collection <;> simp [PartialTable.finish, complete]

/-- The table of one tag while its element is read, and after it has been finished. -/
inductive Progress (tag : Tag) (before : List TableDescriptor) (starts : List Start)
    (d : Draft) : Prop
  | reading {t : PartialTable} : d.table = some t → d.tables.getD [] = before →
      Describes tag starts t → Progress tag before starts d
  | finished {described : TableDescriptor} : d.table = none →
      d.tables.getD [] = before ++ [described] → Describes tag starts (complete described) →
      Progress tag before starts d

theorem Progress.skip (h : Progress tag before starts d)
    (hs : ∀ place ∈ [("classes", "object"), ("classes", "collection"), ("fields", "field")],
      s.isIn place.1 place.2 = false)
    (htable : d'.table = d.table) (htables : d'.tables.getD [] = d.tables.getD []) :
    Progress tag before (starts ++ [s]) d' := by
  have hskip : ∀ {t : PartialTable}, Describes tag starts t → Describes tag (starts ++ [s]) t := by
    intro t ht
    simp only [List.forall_mem_cons] at hs
    refine ⟨ht.name, ht.key, ?_, ?_, ?_⟩
    · simp [tagsIn_concat, hs.1, ht.object]
    · simp [tagsIn_concat, hs.2.1, ht.collection]
    · simp [tagsIn_concat, hs.2.2.1, ht.fields]
  cases h with
  | reading ht hbefore hd => exact .reading (htable.trans ht) (htables.trans hbefore) (hskip hd)
  | finished hnone hbefore hd =>
    exact .finished (htable.trans hnone) (htables.trans hbefore) (hskip hd)

theorem Progress.change (h : Progress tag before starts d) (ht : d.table = some t)
    {t' : PartialTable} (hchange : Describes tag starts t → Describes tag (starts ++ [s]) t') :
    Progress tag before (starts ++ [s]) { d with table := some t' } := by
  cases h with
  | reading ht' hbefore hd =>
    rw [ht, Option.some.injEq] at ht'
    subst ht'
    exact .reading rfl hbefore (hchange hd)
  | finished hnone _ _ =>
    rw [ht] at hnone
    cases hnone

/-- Every accepted start inside a table keeps its description up to date. -/
theorem Progress.started (h : Progress tag before starts d) {inner : Tag}
    (hstart : d.Started inner d') (hnot : isTable ⟨d.path.head?, inner⟩ = false) :
    Progress tag before (starts ++ [⟨d.path.head?, inner⟩]) d' := by
  cases hstart with
  | tables hname => exact h.skip (by simp [Start.isIn, hname]) rfl rfl
  | converters hname => exact h.skip (by simp [Start.isIn, hname]) rfl rfl
  | table hpath hname _ _ => simp [isTable, Start.isIn, hpath, hname] at hnot
  | object hpath hname ht hvalue =>
    refine h.change ht fun hd => ⟨hd.name, hd.key, ?_, ?_, ?_⟩ <;>
      simp [tagsIn_concat, Start.isIn, hpath, hname, hvalue, hd.collection, hd.fields]
  | collection hpath hname ht hvalue =>
    refine h.change ht fun hd => ⟨hd.name, hd.key, ?_, ?_, ?_⟩ <;>
      simp [tagsIn_concat, Start.isIn, hpath, hname, hvalue, hd.object, hd.fields]
  | field hpath hname ht hvalue =>
    refine h.change ht fun hd => ⟨hd.name, hd.key, ?_, ?_, ?_⟩ <;>
      simp [tagsIn_concat, Start.isIn, hpath, hname, hvalue, hd.object, hd.collection, hd.fields]
  | converter _ hname _ => exact h.skip (by simp [Start.isIn, hname]) rfl rfl
  | other _ _ hparts =>
    refine h.skip ?_ rfl rfl
    have hobject := hparts ("classes", "object") (by decide)
    have hcollection := hparts ("classes", "collection") (by decide)
    have hfield := hparts ("fields", "field") (by decide)
    simpa [Start.isIn] using ⟨hobject, hcollection, hfield⟩

theorem Progress.ended (h : Progress tag before starts d) (hend : d.Finished name d') :
    Progress tag before starts d' := by
  cases hend with
  | table _ ht hfinish =>
    rw [finish_eq_ok_iff] at hfinish
    cases h with
    | reading ht' hbefore hd =>
      rw [ht, Option.some.injEq] at ht'
      subst ht' hfinish
      exact .finished rfl (by simp [hbefore]) hd
    | finished hnone _ _ =>
      rw [ht] at hnone
      cases hnone
  | other _ => exact h

theorem finished_table (hend : d.Finished "table" d') : d'.table = none := by
  cases hend with
  | table _ _ _ => rfl
  | other hnone => exact hnone rfl

theorem progress_inside_iff :
    Progress tag before starts (d.inside name) ↔ Progress tag before starts d := by
  constructor
  · intro h
    cases h with
    | reading ht hbefore hd => exact .reading ht hbefore hd
    | finished hnone hbefore hd => exact .finished hnone hbefore hd
  · intro h
    cases h with
    | reading ht hbefore hd => exact .reading ht hbefore hd
    | finished hnone hbefore hd => exact .finished hnone hbefore hd

end Describing

section Ended

variable {content : Content} {d d' : Draft} {tag : Tag} {starts : List Start}
  {before : List TableDescriptor}

theorem reads_path (h : d.Reads content.tokens d') : d'.path = d.path := by
  induction content generalizing d d' with
  | nil => rw [Draft.reads_nil_iff.mp h]
  | empty tag after ih =>
    obtain ⟨d₁, d₂, hstart, hend, hafter⟩ := Draft.reads_empty_iff.mp h
    rw [ih hafter, hend.path, hstart.path]
  | element tag inside after ih ih' =>
    obtain ⟨d₁, d₂, d₃, hstart, hinside, hend, hafter⟩ := Draft.reads_element_iff.mp h
    have hpath := ih hinside
    rw [Draft.inside_path, Draft.inside_path, List.cons.injEq] at hpath
    rw [ih' hafter, hend.path, hpath.2, hstart.path]

theorem element_path {d₁ d₂ : Draft} (hstart : d.Started tag d₁)
    (hinside : (d₁.inside tag.name).Reads content.tokens (d₂.inside tag.name))
    (hend : d₂.Finished tag.name d') : d'.path = d.path := by
  have hpath := reads_path hinside
  rw [Draft.inside_path, Draft.inside_path, List.cons.injEq] at hpath
  rw [hend.path, hpath.2, hstart.path]

theorem Progress.reads (h : Progress tag before starts d) (hreads : d.Reads content.tokens d')
    (hnot : ∀ s ∈ content.starts d.path.head?, isTable s = false) :
    Progress tag before (starts ++ content.starts d.path.head?) d' := by
  induction content generalizing starts d d' with
  | nil =>
    rw [← Draft.reads_nil_iff.mp hreads, Content.starts_nil, List.append_nil]
    exact h
  | empty inner after ih =>
    obtain ⟨d₁, d₂, hstart, hend, hafter⟩ := Draft.reads_empty_iff.mp hreads
    rw [Content.starts_empty, List.forall_mem_cons] at hnot
    have hpath : d₂.path = d.path := hend.path.trans hstart.path
    have hrest := ih ((h.started hstart hnot.1).ended hend) hafter (hpath ▸ hnot.2)
    rwa [hpath, List.append_assoc, List.singleton_append] at hrest
  | element inner inside after ih ih' =>
    obtain ⟨d₁, d₂, d₃, hstart, hinside, hend, hafter⟩ := Draft.reads_element_iff.mp hreads
    rw [Content.starts_element, List.forall_mem_cons, List.forall_mem_append] at hnot
    have hpath : d₃.path = d.path := element_path hstart hinside hend
    have hin := ih (progress_inside_iff.mpr (h.started hstart hnot.1)) hinside hnot.2.1
    have hrest := ih' ((progress_inside_iff.mp hin).ended hend) hafter (hpath ▸ hnot.2.2)
    rw [hpath] at hrest
    simpa using hrest

structure Adds (elements : List (Start × Content)) (d d' : Draft) : Prop where
  done : d'.table = none
  tables : ∃ added, d'.tables.getD [] = d.tables.getD [] ++ added ∧
    List.Forall₂ DescribesElement (elements.filter (isTable ·.1)) added

theorem Adds.append {es fs : List (Start × Content)} {d₁ : Draft} (h : Adds es d d₁)
    (h' : Adds fs d₁ d') : Adds (es ++ fs) d d' := by
  obtain ⟨added, htables, hadded⟩ := h.tables
  obtain ⟨added', htables', hadded'⟩ := h'.tables
  refine ⟨h'.done, added ++ added', ?_, ?_⟩
  · rw [htables', htables, List.append_assoc]
  · rw [List.filter_append]
    exact List.rel_append hadded hadded'

theorem Adds.of_none {es : List (Start × Content)} (hnot : ∀ e ∈ es, isTable e.1 = false)
    (hdone : d'.table = none) (htables : d'.tables.getD [] = d.tables.getD []) : Adds es d d' := by
  have hfilter : es.filter (isTable ·.1) = [] := by
    rw [List.filter_eq_nil_iff]
    intro e he
    simp [hnot e he]
  refine ⟨hdone, [], by rw [htables, List.append_nil], ?_⟩
  rw [hfilter]
  exact .nil

theorem started_table (hstart : d.Started tag d') (h : isTable ⟨d.path.head?, tag⟩ = true) :
    Progress tag (d.tables.getD []) [] d' := by
  obtain ⟨hpath, hname⟩ : d.path.head? = some "tables" ∧ tag.name = "table" := by
    simpa [isTable, Start.isIn] using h
  cases hstart with
  | table _ _ hn hk => exact .reading rfl rfl ⟨hn, hk, rfl, rfl, rfl⟩
  | other _ _ hparts => exact absurd hname (hparts ("tables", "table") (by decide) hpath)
  | _ => simp_all

theorem Progress.adds {e : Start × Content} {d₁ : Draft} (he : isTable e.1 = true)
    (h : Progress e.1.tag (d.tables.getD []) (e.2.starts (some e.1.tag.name)) d₁)
    (hend : d₁.Finished e.1.tag.name d') : Adds [e] d d' := by
  have hname : e.1.tag.name = "table" := by
    have hboth : e.1.around = some "tables" ∧ e.1.tag.name = "table" := by
      simpa [isTable, Start.isIn] using he
    exact hboth.2
  have hdone := finished_table (hname ▸ hend)
  cases h.ended hend with
  | reading ht _ _ =>
    rw [hdone] at ht
    cases ht
  | @finished described _ htables hd =>
    refine ⟨hdone, [described], htables, ?_⟩
    rw [List.filter_cons_of_pos (by exact he)]
    exact .cons hd .nil

theorem started_other (hstart : d.Started tag d') (hnone : d.table = none)
    (hnot : isTable ⟨d.path.head?, tag⟩ = false) :
    d'.table = none ∧ d'.tables.getD [] = d.tables.getD [] := by
  cases hstart with
  | table hpath hname _ _ => simp [isTable, Start.isIn, hpath, hname] at hnot
  | object _ _ ht _ => simp [hnone] at ht
  | collection _ _ ht _ => simp [hnone] at ht
  | field _ _ ht _ => simp [hnone] at ht
  | _ => exact ⟨hnone, rfl⟩

theorem finished_none {name : String} (hend : d.Finished name d') (hnone : d.table = none) :
    d' = d := by
  cases hend with
  | table _ ht _ => simp [hnone] at ht
  | other => rfl

theorem not_table_of_starts {around : Option String}
    (h : ∀ s ∈ content.starts around, isTable s = false) :
    ∀ e ∈ content.elements around, isTable e.1 = false := by
  intro e he
  exact h e.1 (List.mem_map_of_mem he)

theorem adds_element {inner : Tag} {inside : Content} {d₁ d₂ : Draft}
    (hstart : d.Started inner d₁)
    (hinside : (d₁.inside inner.name).Reads inside.tokens (d₂.inside inner.name))
    (hend : d₂.Finished inner.name d') (hnone : d.table = none)
    (hseparate : isTable ⟨d.path.head?, inner⟩ = true →
      ∀ s ∈ inside.starts (some inner.name), isTable s = false)
    (hadds : d₁.table = none → Adds (inside.elements (some inner.name)) (d₁.inside inner.name)
      (d₂.inside inner.name)) :
    Adds ((⟨d.path.head?, inner⟩, inside) :: inside.elements (some inner.name)) d d' := by
  rw [← List.singleton_append]
  cases htable : isTable ⟨d.path.head?, inner⟩ with
  | true =>
    have hnot := hseparate htable
    have hin := (progress_inside_iff.mpr (started_table hstart htable)).reads hinside hnot
    have hone : Adds [(⟨d.path.head?, inner⟩, inside)] d d' :=
      Progress.adds htable (progress_inside_iff.mp hin) hend
    exact hone.append (.of_none (not_table_of_starts hnot) hone.done rfl)
  | false =>
    obtain ⟨hnone, htables⟩ := started_other hstart hnone htable
    have hin := hadds hnone
    have hone : Adds [(⟨d.path.head?, inner⟩, inside)] d d₁ :=
      .of_none (by simp [htable]) hnone htables
    rw [finished_none hend hin.done]
    exact hone.append ⟨hin.done, hin.tables⟩

/-- Outside of a table, exactly the configured tables are added. -/
theorem reads_adds (h : d.Reads content.tokens d') (hnone : d.table = none)
    (hseparate : ∀ e ∈ content.elements d.path.head?, isTable e.1 = true →
      ∀ s ∈ e.2.starts (some e.1.tag.name), isTable s = false) :
    Adds (content.elements d.path.head?) d d' := by
  induction content generalizing d d' with
  | nil =>
    rw [← Draft.reads_nil_iff.mp h]
    exact .of_none (by simp [Content.elements]) hnone rfl
  | empty inner after ih =>
    obtain ⟨d₁, d₂, hstart, hend, hafter⟩ := Draft.reads_empty_iff.mp h
    have hpath : d₂.path = d.path := hend.path.trans hstart.path
    rw [Content.elements, List.forall_mem_cons] at hseparate
    have hfirst : Adds [(⟨d.path.head?, inner⟩, .nil)] d d₂ :=
      adds_element hstart (Draft.reads_nil_iff.mpr rfl) hend hnone hseparate.1 fun hnone =>
        .of_none (by simp [Content.elements]) hnone rfl
    have hrest := ih hafter hfirst.done (hpath ▸ hseparate.2)
    rw [hpath] at hrest
    exact hfirst.append hrest
  | element inner inside after ih ih' =>
    obtain ⟨d₁, d₂, d₃, hstart, hinside, hend, hafter⟩ := Draft.reads_element_iff.mp h
    have hpath : d₃.path = d.path := element_path hstart hinside hend
    rw [Content.elements, List.forall_mem_cons, List.forall_mem_append] at hseparate
    have hfirst := adds_element hstart hinside hend hnone hseparate.1 fun hnone =>
      ih hinside hnone hseparate.2.1
    have hrest := ih' hafter hfirst.done (hpath ▸ hseparate.2.2)
    rw [hpath] at hrest
    exact hfirst.append hrest

end Ended

section Unended

variable {d d' : Draft} {tag : Tag} {name : String}

theorem started_tables (hstart : d.Started tag d') : d'.tables.getD [] = d.tables.getD [] := by
  cases hstart <;> rfl

theorem finished_tables (hend : d.Finished name d') (hname : name ≠ "table") :
    d'.tables.getD [] = d.tables.getD [] := by
  cases hend with
  | table htable _ _ => exact absurd htable hname
  | other => rfl

theorem reads_tables {content : Content} (h : d.Reads content.tokens d') {around : Option String}
    (hnot : ∀ s ∈ content.starts around, s.tag.name ≠ "table") :
    d'.tables.getD [] = d.tables.getD [] := by
  induction content generalizing d d' around with
  | nil => rw [Draft.reads_nil_iff.mp h]
  | empty inner after ih =>
    obtain ⟨d₁, d₂, hstart, hend, hafter⟩ := Draft.reads_empty_iff.mp h
    rw [Content.starts_empty, List.forall_mem_cons] at hnot
    rw [ih hafter hnot.2, finished_tables hend hnot.1, started_tables hstart]
  | element inner inside after ih ih' =>
    obtain ⟨d₁, d₂, d₃, hstart, hinside, hend, hafter⟩ := Draft.reads_element_iff.mp h
    rw [Content.starts_element, List.forall_mem_cons, List.forall_mem_append] at hnot
    have hin := ih hinside hnot.2.1
    rw [Draft.inside_tables, Draft.inside_tables] at hin
    rw [ih' hafter hnot.2.2, finished_tables hend hnot.1, hin, started_tables hstart]

theorem reads_opened_iff {before : Content} {inside : Outline} :
    d.Reads (Outline.opened before tag inside).tokens d' ↔
      ∃ d₁ d₂, d.Reads before.tokens d₁ ∧ d₁.Started tag d₂ ∧
        (d₂.inside tag.name).Reads inside.tokens d' := by
  rw [Outline.tokens, Draft.reads_append_iff]
  simp only [Draft.reads_cons_iff, Draft.read_opening_iff]
  grind

theorem reads_outline_tables {doc : Outline} (h : d.Reads doc.tokens d') {around : Option String}
    (hnot : ∀ s ∈ doc.starts around, s.tag.name ≠ "table") :
    d'.tables.getD [] = d.tables.getD [] := by
  induction doc generalizing d d' around with
  | ended content =>
    rw [Outline.starts_ended] at hnot
    exact reads_tables h hnot
  | opened before tag inside ih =>
    obtain ⟨d₁, d₂, hbefore, hstart, hinside⟩ := reads_opened_iff.mp h
    have hin := ih hinside fun s hs => hnot s (Outline.mem_starts_opened.mpr (.inr (.inr hs)))
    rw [hin, Draft.inside_tables, started_tables hstart]
    exact reads_tables hbefore fun s hs => hnot s (Outline.mem_starts_opened.mpr (.inl hs))

theorem Separate.inside {around : Option String} {before : Content} {inside : Outline}
    (h : Separate around (.opened before tag inside)) : Separate (some tag.name) inside where
  ended e he := h.ended e (List.mem_append_right _ he)
  unended e he := h.unended e (List.mem_cons_of_mem _ he)

theorem reads_outline {doc : Outline} (h : d.Reads doc.tokens d') (hnone : d.table = none)
    (hseparate : Separate d.path.head? doc) :
    ∃ added, d'.tables.getD [] = d.tables.getD [] ++ added ∧
      List.Forall₂ DescribesElement ((doc.elements d.path.head?).filter (isTable ·.1)) added := by
  induction doc generalizing d d' with
  | ended content => exact (reads_adds h hnone hseparate.ended).tables
  | opened before tag inside ih =>
    obtain ⟨d₁, d₂, hbefore, hstart, hinside⟩ := reads_opened_iff.mp h
    have hpath : d₁.path = d.path := reads_path hbefore
    have hadds := reads_adds hbefore hnone fun e he =>
      hseparate.ended e (List.mem_append_left _ he)
    have hinner : ∃ added, d'.tables.getD [] = d₁.tables.getD [] ++ added ∧
        List.Forall₂ DescribesElement
          ((inside.elements (some tag.name)).filter (isTable ·.1)) added := by
      cases htable : isTable ⟨d.path.head?, tag⟩ with
      | true =>
        -- A table that is left open adds nothing, and no other table stands inside it.
        have hnot := hseparate.unended (⟨d.path.head?, tag⟩, inside) List.mem_cons_self htable
        have htables := reads_outline_tables hinside hnot
        rw [Draft.inside_tables, started_tables hstart] at htables
        refine ⟨[], by rw [htables, List.append_nil], ?_⟩
        rw [List.filter_eq_nil_iff.mpr]
        · exact .nil
        · intro e he
          have hname := hnot e.1 (List.mem_append_left _ (List.mem_map_of_mem he))
          simp [isTable, Start.isIn, hname]
      | false =>
        obtain ⟨hnone, htables⟩ := started_other hstart hadds.done (hpath ▸ htable)
        obtain ⟨added, hadded⟩ := ih hinside hnone hseparate.inside
        rw [Draft.inside_tables, htables] at hadded
        exact ⟨added, hadded⟩
    obtain ⟨first, hfirst, hdescribed⟩ := hadds.tables
    obtain ⟨second, hsecond, hdescribed'⟩ := hinner
    refine ⟨first ++ second, by rw [hsecond, hfirst, List.append_assoc], ?_⟩
    rw [Outline.elements, List.filter_append]
    exact List.rel_append hdescribed hdescribed'

theorem fits_of_reads {ts : List Token} (h : d.Reads ts d') : Fits d.path ts := by
  induction ts generalizing d with
  | nil => trivial
  | cons t ts ih =>
    obtain ⟨d₁, hread, hrest⟩ := Draft.reads_cons_iff.mp h
    cases t with
    | opening tag =>
      obtain ⟨d₂, hstart, rfl⟩ := Draft.read_opening_iff.mp hread
      have hfits := ih hrest
      rwa [Draft.inside_path, hstart.path] at hfits
    | empty tag =>
      obtain ⟨d₂, hstart, hend⟩ := Draft.read_empty_iff.mp hread
      have hfits := ih hrest
      rwa [hend.path, hstart.path] at hfits
    | closing name =>
      obtain ⟨d₂, rfl, hend⟩ := Draft.read_closing_iff.mp hread
      have hfits := ih hrest
      rw [hend.path] at hfits
      exact ⟨d₂.path, rfl, hfits⟩

end Unended

theorem tables_of_config {d : Draft} {config : Config} (h : d.config = .ok config) :
    config.tables = d.tables.getD [] := by
  unfold Draft.config at h
  split at h
  · cases h
  · cases h
  · rename_i tables converters htables _
    cases h
    rw [htables]
    rfl

theorem reads_of_ofText {text : String} {config : Config} (h : ofText text = .ok config) :
    ∃ ts d, Xml.tokens (dropMark text.toList) = (ts, none) ∧ Draft.Reads {} ts d ∧
      d.config = .ok config := by
  cases htokens : Xml.tokens (dropMark text.toList) with
  | mk ts fault =>
    rw [ofText, htokens] at h
    obtain ⟨d, hreads, hconfig⟩ := Draft.bind_eq_ok_iff.mp h
    cases fault with
    | some fault => cases hconfig
    | none => exact ⟨ts, d, rfl, hreads, hconfig⟩

/-- An accepted text has an outline. If its configured tables are separate then the
configuration has, in order, exactly those that have ended, each with what is written in it. -/
theorem ofText_tables {text : String} {config : Config} (h : ofText text = .ok config) :
    (∃ doc : Outline, Xml.tokens (dropMark text.toList) = (doc.tokens, none)) ∧
      ∀ doc : Outline, Xml.tokens (dropMark text.toList) = (doc.tokens, none) →
        Separate none doc → List.Forall₂ DescribesElement (configured doc) config.tables := by
  obtain ⟨ts, d, htokens, hreads, hconfig⟩ := reads_of_ofText h
  constructor
  · obtain ⟨doc, hdoc⟩ := exists_outline (fits_of_reads hreads)
    exact ⟨doc, by rw [htokens, hdoc]⟩
  · intro doc hdoc hseparate
    rw [htokens, Prod.mk.injEq] at hdoc
    obtain ⟨rfl, -⟩ := hdoc
    obtain ⟨added, htables, hdescribed⟩ := reads_outline hreads rfl hseparate
    rw [tables_of_config hconfig, htables]
    exact hdescribed

def classesPieces : List String :=
  ["<classes>", "<object class=\"A\"/>", "<collection class=\"B\"/>", "</classes>"]

def classesElement (after : Content) : Content :=
  .element ⟨"classes".toList⟩
    (.empty ⟨"object class=\"A\"".toList⟩ (.empty ⟨"collection class=\"B\"".toList⟩ .nil)) after

def textOf (pieces : List String) : String :=
  String.ofList (pieces.flatMap String.toList)

theorem textOf_toList (pieces : List String) :
    (textOf pieces).toList = pieces.flatMap String.toList :=
  String.toList_ofList

def cutPieces : List String :=
  ["<c>", "<converters/>", "<tables>", "<table name=\"a\" key=\"id\">"] ++ classesPieces ++
    ["<fields>", "<field name=\"f\"/>", "</fields>", "</table>",
      "<table name=\"b\" key=\"id\">"] ++ classesPieces

def cutOutline : Outline :=
  .opened .nil ⟨"c".toList⟩ <|
    .opened (.empty ⟨"converters".toList⟩ .nil) ⟨"tables".toList⟩ <|
      .opened
        (.element ⟨"table name=\"a\" key=\"id\"".toList⟩
          (classesElement
            (.element ⟨"fields".toList⟩ (.empty ⟨"field name=\"f\"".toList⟩ .nil) .nil))
          .nil)
        ⟨"table name=\"b\" key=\"id\"".toList⟩ (.ended (classesElement .nil))

def cutConfig : Config :=
  ⟨[⟨"a", "id", "A", "B", ["f"]⟩], []⟩

theorem cut_tokens :
    Xml.tokens (dropMark (textOf cutPieces).toList) = (cutOutline.tokens, none) := by
  rw [textOf_toList]
  decide +kernel

theorem cut_read : ofText (textOf cutPieces) = .ok cutConfig := by
  rw [ofText, cut_tokens]
  exact eq_ok_of_toOption (by decide +kernel)

theorem cutOutline_separate : Separate none cutOutline where
  ended := by decide +kernel
  unended := by decide +kernel

theorem cut_described : List.Forall₂ DescribesElement (configured cutOutline) cutConfig.tables :=
  (ofText_tables cut_read).2 cutOutline cut_tokens cutOutline_separate

def nestedPieces : List String :=
  ["<c>", "<tables>", "<table name=\"a\" key=\"id\">"] ++ classesPieces ++
    ["<tables>", "<table name=\"b\" key=\"id\">"] ++ classesPieces ++
    ["</table>", "</tables>", "</table>", "</tables>", "<converters/>", "</c>"]

def nestedOutline : Outline :=
  .ended (.element ⟨"c".toList⟩
    (.element ⟨"tables".toList⟩
      (.element ⟨"table name=\"a\" key=\"id\"".toList⟩
        (classesElement
          (.element ⟨"tables".toList⟩
            (.element ⟨"table name=\"b\" key=\"id\"".toList⟩ (classesElement .nil) .nil) .nil))
        .nil)
      (.empty ⟨"converters".toList⟩ .nil))
    .nil)

def nestedConfig : Config :=
  ⟨[⟨"b", "id", "A", "B", []⟩], []⟩

theorem nested_tokens :
    Xml.tokens (dropMark (textOf nestedPieces).toList) = (nestedOutline.tokens, none) := by
  rw [textOf_toList]
  decide +kernel

theorem nested_read : ofText (textOf nestedPieces) = .ok nestedConfig := by
  rw [ofText, nested_tokens]
  exact eq_ok_of_toOption (by decide +kernel)

/-- The text is accepted with fewer tables than it has configured start tags. -/
structure Loses (text : String) (doc : Outline) (config : Config) : Prop where
  accepted : ofText text = .ok config
  outline : Xml.tokens (dropMark text.toList) = (doc.tokens, none)
  fewer : config.tables.length < ((doc.starts none).filter isTable).length

theorem tables_lost :
    Loses (textOf cutPieces) cutOutline cutConfig ∧
      Loses (textOf nestedPieces) nestedOutline nestedConfig :=
  ⟨⟨cut_read, cut_tokens, by decide +kernel⟩, ⟨nested_read, nested_tokens, by decide +kernel⟩⟩

end RunConditions.Config
