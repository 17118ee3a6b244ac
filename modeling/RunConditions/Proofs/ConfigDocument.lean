import RunConditions.Proofs.Draft
import RunConditions.Proofs.WrittenText

/-!
# Configurations as documents

A configuration is written as a document with its tables in one section and its
converters in another. Any names can be written, and reading the document gives
the configuration back.
-/

set_option autoImplicit false

namespace RunConditions.Config
open Xml

/-- An element with tokens inside it. One without any may be written short. -/
inductive Element (name : String) (attributes : List (String × List Char)) :
    List Token → List Token → Prop
  | whole (ts : List Token) : Element name attributes ts
      (.opening (.written name attributes) :: (ts ++ [.closing name]))
  | short : Element name attributes [] [.empty (.written name attributes)]

inductive Row {α : Type} (writes : α → List Token → Prop) : List α → List Token → Prop
  | nil : Row writes [] []
  | cons {a : α} {as : List α} {ts us : List Token} : writes a ts → Row writes as us →
      Row writes (a :: as) (ts ++ us)

inductive Leaf (name attr value : String) : List Token → Prop
  | mk {raw : List Char} {ts : List Token} : Escaped value.toList raw →
      Element name [(attr, raw)] [] ts → Leaf name attr value ts

inductive WritesTable (d : TableDescriptor) : List Token → Prop
  | mk {name key : List Char} {object collection classes row fields ts : List Token} :
      Escaped d.name.toList name → Escaped d.key.toList key →
      Leaf "object" "class" d.objectType object →
      Leaf "collection" "class" d.collectionType collection →
      Element "classes" [] (object ++ collection) classes →
      Row (Leaf "field" "name") d.fields row → Element "fields" [] row fields →
      Element "table" [("name", name), ("key", key)] (classes ++ fields) ts → WritesTable d ts

inductive Writes (c : Config) : List Token → Prop
  | mk {row tables row' converters ts : List Token} :
      Row WritesTable c.tables row → Element "tables" [] row tables →
      Row (Leaf "converter" "class") c.converters row' → Element "converters" [] row' converters →
      Element "conditions" [] (tables ++ converters) ts → Writes c ts

/-- A text in which a configuration is written, with a declaration in front or without. -/
inductive Document (c : Config) : String → Prop
  | plain {ts : List Token} {cs : List Char} : Writes c ts → Written ts cs →
      Document c (String.ofList cs)
  | declared {info cs : List Char} {ts : List Token} : '?' ∉ info → Writes c ts →
      Written ts cs →
      Document c (String.ofList ('<' :: '?' :: 'x' :: 'm' :: 'l' :: (info ++ '?' :: '>' :: cs)))

section Existence

variable {name attr value : String} {attributes : List (String × List Char)}
  {ts us : List Token}

def Writable (ts : List Token) : Prop :=
  ∃ cs, Written ts cs

theorem written_append {cs ds : List Char} (h : Written ts cs) (hus : Written us ds) :
    Written (ts ++ us) (cs ++ ds) := by
  induction h with
  | nil => exact hus
  | blank hc _ ih => exact .blank hc ih
  | comment hbody _ ih =>
    rw [List.cons_append, List.cons_append, List.cons_append, List.cons_append,
      List.append_assoc, List.cons_append, List.cons_append, List.cons_append]
    exact .comment hbody ih
  | opening hname hattributes _ ih =>
    rw [List.cons_append, List.cons_append, List.append_assoc, List.cons_append]
    exact .opening hname hattributes ih
  | empty hname hattributes _ ih =>
    rw [List.cons_append, List.cons_append, List.append_assoc, List.cons_append,
      List.cons_append]
    exact .empty hname hattributes ih
  | closing hname _ ih =>
    rw [List.cons_append, List.cons_append, List.cons_append, List.append_assoc,
      List.cons_append]
    exact .closing hname ih

theorem Writable.append (h : Writable ts) (hus : Writable us) : Writable (ts ++ us) := by
  obtain ⟨cs, hcs⟩ := h
  obtain ⟨ds, hds⟩ := hus
  exact ⟨cs ++ ds, written_append hcs hds⟩

theorem exists_element (name : String) (hname : IsWord name) (h : Attributes attributes)
    (hts : Writable ts) : ∃ us, Element name attributes ts us ∧ Writable us := by
  obtain ⟨cs, hcs⟩ := hts
  have hclosing : Written [.closing name] _ := .closing hname .nil
  exact ⟨_, .whole ts, _, .opening hname h (written_append hcs hclosing)⟩

theorem exists_leaf (name attr : String) (hname : IsWord name) (hattr : IsWord attr)
    (value : String) : ∃ ts, Leaf name attr value ts ∧ Writable ts := by
  obtain ⟨raw, hraw⟩ := exists_escaped value.toList
  have hattributes : Attributes [(attr, raw)] := by
    intro a ha
    rw [List.mem_singleton.mp ha]
    exact ⟨hattr, hraw.quote_notMem⟩
  obtain ⟨ts, hts, hw⟩ := exists_element name hname hattributes ⟨[], .nil⟩
  exact ⟨ts, .mk hraw hts, hw⟩

theorem exists_row {α : Type} {writes : α → List Token → Prop}
    (h : ∀ a, ∃ ts, writes a ts ∧ Writable ts) (as : List α) :
    ∃ ts, Row writes as ts ∧ Writable ts := by
  induction as with
  | nil => exact ⟨[], .nil, [], .nil⟩
  | cons a as ih =>
    obtain ⟨ts, hts, hw⟩ := h a
    obtain ⟨us, hus, hw'⟩ := ih
    exact ⟨ts ++ us, .cons hts hus, hw.append hw'⟩

theorem attributes_nil : Attributes [] := by
  intro a ha
  cases ha

theorem attributes_table {name key : List Char} (hname : '"' ∉ name) (hkey : '"' ∉ key) :
    Attributes [("name", name), ("key", key)] := by
  intro a ha
  simp only [List.mem_cons, List.not_mem_nil, or_false] at ha
  rcases ha with rfl | rfl
  · exact ⟨(by decide : IsWord "name"), hname⟩
  · exact ⟨(by decide : IsWord "key"), hkey⟩

theorem exists_table (d : TableDescriptor) : ∃ ts, WritesTable d ts ∧ Writable ts := by
  obtain ⟨name, hname⟩ := exists_escaped d.name.toList
  obtain ⟨key, hkey⟩ := exists_escaped d.key.toList
  obtain ⟨object, hobject, hw⟩ := exists_leaf "object" "class" (by decide) (by decide) d.objectType
  obtain ⟨collection, hcollection, hw'⟩ :=
    exists_leaf "collection" "class" (by decide) (by decide) d.collectionType
  obtain ⟨classes, hclasses, hwc⟩ := exists_element "classes" (by decide)
    attributes_nil (hw.append hw')
  obtain ⟨row, hrow, hwr⟩ :=
    exists_row (exists_leaf "field" "name" (by decide) (by decide)) d.fields
  obtain ⟨fields, hfields, hwf⟩ := exists_element "fields" (by decide)
    attributes_nil hwr
  obtain ⟨ts, hts, hwt⟩ := exists_element "table" (by decide)
    (attributes_table hname.quote_notMem hkey.quote_notMem) (hwc.append hwf)
  exact ⟨ts, .mk hname hkey hobject hcollection hclasses hrow hfields hts, hwt⟩

theorem exists_writes (c : Config) : ∃ ts, Writes c ts ∧ Writable ts := by
  obtain ⟨row, hrow, hw⟩ := exists_row exists_table c.tables
  obtain ⟨tables, htables, hwt⟩ := exists_element "tables" (by decide)
    attributes_nil hw
  obtain ⟨row', hrow', hw'⟩ :=
    exists_row (exists_leaf "converter" "class" (by decide) (by decide)) c.converters
  obtain ⟨converters, hconverters, hwc⟩ := exists_element "converters" (by decide)
    attributes_nil hw'
  obtain ⟨ts, hts, hwts⟩ := exists_element "conditions" (by decide)
    attributes_nil (hwt.append hwc)
  exact ⟨ts, .mk hrow htables hrow' hconverters hts, hwts⟩

theorem exists_document (c : Config) : ∃ text, Document c text := by
  obtain ⟨ts, hts, cs, hcs⟩ := exists_writes c
  exact ⟨_, .plain hts hcs⟩

end Existence

section Reading

variable {name attr value : String} {attributes : List (String × List Char)}
  {ts us : List Token} {d d₁ d₂ d' : Draft}

theorem requiredAttribute_written (hname : IsWord name) (h : Attributes attributes)
    (hdistinct : (attributes.map Prod.fst).Nodup) (element attr : String) {raw : List Char}
    (hmem : attributes.lookup attr = some raw) (hraw : Escaped value.toList raw) :
    requiredAttribute (.written name attributes) element attr = .ok value := by
  simp only [requiredAttribute, Tag.attribute?_written hname h hdistinct, hmem, hraw.unescape,
    String.ofList_toList]

theorem Element.reads (h : Element name attributes ts us) (hname : IsWord name)
    (hstart : d.Started (.written name attributes) d₁)
    (hinside : Draft.Reads (d₁.inside name) ts (d₂.inside name)) (hend : d₂.Finished name d') :
    d.Reads us d' := by
  cases h with
  | whole =>
    have hname' : (Tag.written name attributes).name = name := Tag.name_written hname
    rw [← hname'] at hinside hend
    have hreads := Draft.reads_element_iff.mpr
      ⟨d₁, d₂, d', hstart, hinside, hend, Draft.reads_nil_iff.mpr rfl⟩
    rwa [hname'] at hreads
  | short =>
    have hsame : d₁ = d₂ := by
      have hinside := Draft.reads_nil_iff.mp hinside
      cases d₁
      cases d₂
      simpa [Draft.inside] using hinside
    subst hsame
    exact Draft.reads_empty_iff.mpr
      ⟨d₁, d', hstart, (Tag.name_written hname).symm ▸ hend, Draft.reads_nil_iff.mpr rfl⟩

theorem Row.reads {α : Type} {writes : α → List Token → Prop} {as : List α}
    (h : Row writes as ts) (draft : List α → Draft)
    (hstep : ∀ a ts before, writes a ts → (draft before).Reads ts (draft (before ++ [a])))
    (before : List α) : (draft before).Reads ts (draft (before ++ as)) := by
  induction h generalizing before with
  | nil =>
    rw [List.append_nil]
    exact Draft.reads_nil_iff.mpr rfl
  | @cons a as ts us ha _ ih =>
    have hrest := ih (before ++ [a])
    rw [List.append_assoc, List.singleton_append] at hrest
    exact Draft.reads_append_iff.mpr ⟨_, hstep a ts before ha, hrest⟩

theorem Leaf.reads (h : Leaf name attr value ts) (hname : IsWord name)
    (hattr : IsWord attr) (htable : name ≠ "table")
    (hstart : ∀ tag : Tag, tag.name = name → requiredAttribute tag name attr = .ok value →
      d.Started tag d') : d.Reads ts d' := by
  cases h with
  | @mk raw _ hraw helement =>
    have hattributes : Attributes [(attr, raw)] := by
      intro a ha
      rw [List.mem_singleton.mp ha]
      exact ⟨hattr, hraw.quote_notMem⟩
    have hlookup : [(attr, raw)].lookup attr = some raw := List.lookup_cons_self
    have hvalue := requiredAttribute_written hname hattributes (by simp) name attr
      hlookup hraw
    exact helement.reads hname (hstart _ (Tag.name_written hname) hvalue)
      (Draft.reads_nil_iff.mpr rfl) (.other fun h => absurd h htable)

theorem Element.reads_section (h : Element name [] ts us) (hname : IsWord name)
    (hnot : name ∉ ["tables", "converters", "table", "object", "collection", "field", "converter"])
    (hinside : Draft.Reads (d.inside name) ts (d'.inside name)) : d.Reads us d' := by
  simp only [List.mem_cons, List.not_mem_nil, or_false, not_or] at hnot
  refine h.reads hname (.other ?_ ?_ ?_) hinside (.other fun htable => absurd htable hnot.2.2.1)
  · rw [Tag.name_written hname]
    exact hnot.1
  · rw [Tag.name_written hname]
    exact hnot.2.1
  · rw [Tag.name_written hname]
    simp [Draft.parts, hnot]

section Tables

variable {t : PartialTable}

theorem reads_classes {objectType collectionType : String} {object collection : List Token}
    (hobject : Leaf "object" "class" objectType object)
    (hcollection : Leaf "collection" "class" collectionType collection)
    (hclasses : Element "classes" [] (object ++ collection) ts) (hd : d.table = some t) :
    d.Reads ts { d with table := some { t with
      objectType := some objectType, collectionType := some collectionType } } := by
  have hfirst : Draft.Reads (d.inside "classes") object
      (Draft.inside { d with table := some { t with objectType := some objectType } } "classes") :=
    hobject.reads (by decide) (by decide) (by decide)
      fun tag htag hvalue => .object rfl htag hd hvalue
  have hsecond : Draft.Reads
      (Draft.inside { d with table := some { t with objectType := some objectType } } "classes")
      collection _ :=
    hcollection.reads (by decide) (by decide) (by decide)
      fun tag htag hvalue => .collection rfl htag rfl hvalue
  exact hclasses.reads_section (by decide) (by decide)
    (Draft.reads_append_iff.mpr ⟨_, hfirst, hsecond⟩)

theorem reads_fields {fields : List String} {row : List Token}
    (hrow : Row (Leaf "field" "name") fields row) (hfields : Element "fields" [] row ts)
    (hd : d.table = some t) :
    d.Reads ts { d with table := some { t with fields := t.fields ++ fields } } := by
  have hd : { d with table := some t } = d := by rw [← hd]
  have hinside := hrow.reads
    (fun before => Draft.inside { d with table := some { t with fields := before } } "fields")
    (fun value us before hleaf => hleaf.reads (by decide) (by decide) (by decide)
      fun tag htag hvalue => .field (t := { t with fields := before }) rfl htag rfl hvalue) t.fields
  rw [hd] at hinside
  exact hfields.reads_section (by decide) (by decide) hinside

theorem WritesTable.reads {table : TableDescriptor} (h : WritesTable table ts)
    (hpath : d.path.head? = some "tables") (hnone : d.table = none) :
    d.Reads ts { d with tables := some (d.tables.getD [] ++ [table]) } := by
  obtain ⟨hname, hkey, hobject, hcollection, hclasses, hrow, hfields, htable⟩ := h
  have hattributes := attributes_table hname.quote_notMem hkey.quote_notMem
  have hword : IsWord "table" := by decide
  have hname := requiredAttribute_written hword hattributes (by simp) "table" "name" rfl hname
  have hkey := requiredAttribute_written hword hattributes (by simp) "table" "key" rfl hkey
  have hstart := Draft.Started.table hpath (Tag.name_written hword) hname hkey
  let started : PartialTable := { name := table.name, key := table.key }
  let classed : PartialTable := { started with
    objectType := some table.objectType, collectionType := some table.collectionType }
  have hclasses : Draft.Reads (Draft.inside { d with table := some started } "table") _
      (Draft.inside { d with table := some classed } "table") :=
    reads_classes hobject hcollection hclasses rfl
  have hfields : Draft.Reads (Draft.inside { d with table := some classed } "table") _
      (Draft.inside { d with table := some { classed with fields := table.fields } } "table") :=
    reads_fields hrow hfields rfl
  have hend := Draft.Finished.table
    (d := { d with table := some { classed with fields := table.fields } }) rfl rfl rfl
  rw [hnone]
  exact htable.reads hword hstart (Draft.reads_append_iff.mpr ⟨_, hclasses, hfields⟩) hend

end Tables

theorem Writes.reads {c : Config} (h : Writes c ts) :
    Draft.Reads {} ts { tables := some c.tables, converters := some c.converters } := by
  obtain ⟨hrow, htables, hrow', hconverters, hconditions⟩ := h
  have hrow : Draft.Reads (Draft.inside ⟨["conditions"], some [], none, none⟩ "tables") _
      (Draft.inside ⟨["conditions"], some c.tables, none, none⟩ "tables") :=
    hrow.reads (fun before => Draft.mk ["tables", "conditions"] (some before) none none)
      (fun table us before htable => htable.reads rfl rfl) []
  have htables : Draft.Reads ⟨["conditions"], none, none, none⟩ _
      ⟨["conditions"], some c.tables, none, none⟩ :=
    htables.reads (by decide) (.tables (Tag.name_written (by decide))) hrow
      (.other fun h => absurd h (by decide))
  have hrow' : Draft.Reads
      (Draft.inside ⟨["conditions"], some c.tables, some [], none⟩ "converters") _
      (Draft.inside ⟨["conditions"], some c.tables, some c.converters, none⟩ "converters") :=
    hrow'.reads
      (fun before => Draft.mk ["converters", "conditions"] (some c.tables) (some before) none)
      (fun value us before hleaf => hleaf.reads (by decide) (by decide) (by decide)
        fun tag htag hvalue => .converter rfl htag hvalue) []
  have hconverters : Draft.Reads ⟨["conditions"], some c.tables, none, none⟩ _
      ⟨["conditions"], some c.tables, some c.converters, none⟩ :=
    hconverters.reads (by decide) (.converters (Tag.name_written (by decide))) hrow'
      (.other fun h => absurd h (by decide))
  exact hconditions.reads_section (by decide) (by decide)
    (Draft.reads_append_iff.mpr ⟨_, htables, hconverters⟩)

end Reading

theorem Document.tokens {c : Config} {text : String} (h : Document c text) :
    ∃ ts, Writes c ts ∧ Xml.tokens (dropMark text.toList) = (ts, none) := by
  cases h with
  | plain hwrites hwritten =>
    refine ⟨_, hwrites, ?_⟩
    rw [String.toList_ofList, hwritten.dropMark, hwritten.tokens]
  | @declared info cs ts hinfo hwrites hwritten =>
    refine ⟨ts, hwrites, ?_⟩
    have hinfo : '?' ∉ 'm' :: 'l' :: info := by simp [hinfo]
    have htokens := tokens_of_step_none (step_declaration hinfo cs)
    rw [hwritten.tokens] at htokens
    rw [String.toList_ofList, dropMark_cons (by decide)]
    exact htokens

/-- Every configuration can be written, and every document in which it is written is
read as that configuration, whatever its names are. -/
theorem ofText_document (c : Config) :
    (∃ text, Document c text) ∧ ∀ text, Document c text → ofText text = .ok c := by
  refine ⟨exists_document c, ?_⟩
  intro text h
  obtain ⟨ts, hwrites, htokens⟩ := h.tokens
  have hreads : ts.foldlM Draft.read {} = _ := hwrites.reads
  rw [ofText, htokens]
  simp only [ofTokens, hreads]
  rfl

example :
    (ofText ("<?xml version=\"1.0\"?>\n<conditions><tables/><!-- none - --><converters>" ++
      "<converter class=\"a&amp;b\"></converter></converters></conditions>")).toOption =
        some ⟨[], ["a&b"]⟩ := by
  decide +kernel

end RunConditions.Config
