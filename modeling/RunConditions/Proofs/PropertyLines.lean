import Mathlib.Data.List.Basic
import RunConditions.Proofs.TextLines
import RunConditions.Properties

/-!
# What the lines of a property text set

A line sets a key if the key stands between white space before the first `=`
or `:`, or before the end of the line, and a comment or a blank line sets none.
A key has the value that the last line with this key sets it to. So of two
texts one below the other the lower one has the say about its keys, and the
upper one about all others.
-/

set_option autoImplicit false

namespace RunConditions.Properties
open Text

variable {line : List Char} {key value : String} {a b text : String}

structure IsKey (key : String) : Prop where
  nonempty : key ≠ ""
  trimmed : Trimmed key.toList
  unparted : ∀ c ∈ key.toList, c ≠ '=' ∧ c ≠ ':'
  unmarked : ∀ c ∈ key.toList.head?, c ≠ '#' ∧ c ≠ '!'

theorem isKey_iff :
    IsKey key ↔ key ≠ "" ∧ Trimmed key.toList ∧ (∀ c ∈ key.toList, c ≠ '=' ∧ c ≠ ':') ∧
      ∀ c ∈ key.toList.head?, c ≠ '#' ∧ c ≠ '!' :=
  ⟨fun h => ⟨h.nonempty, h.trimmed, h.unparted, h.unmarked⟩,
    fun h => ⟨h.1, h.2.1, h.2.2.1, h.2.2.2⟩⟩

instance (key : String) : Decidable (IsKey key) :=
  decidable_of_iff (key ≠ "" ∧ Trimmed key.toList ∧
      key.toList.all (fun c => c != '=' && c != ':') = true ∧
      key.toList.head?.all (fun c => c != '#' && c != '!') = true) <| by
    simp [isKey_iff, Option.all_eq_true]

/-- A line that sets a key to a value. Where nothing parts them the value is empty. -/
inductive Setting (key value : String) : List Char → Prop
  | parted {left gap gap' right : List Char} {separator : Char} (hkey : IsKey key)
      (hvalue : Trimmed value.toList) (hseparator : separator = '=' ∨ separator = ':')
      (hleft : Blank left) (hgap : Blank gap) (hgap' : Blank gap') (hright : Blank right) :
      Setting key value
        (left ++ key.toList ++ gap ++ separator :: (gap' ++ value.toList ++ right))
  | bare {left right : List Char} (hkey : IsKey key) (hvalue : value = "") (hleft : Blank left)
      (hright : Blank right) : Setting key value (left ++ key.toList ++ right)

theorem isSeparator_iff {c : Char} : isSeparator c = true ↔ c = '=' ∨ c = ':' := by
  simp [isSeparator]

theorem not_isSeparator_of_isBlank {c : Char} (h : isBlank c = true) :
    (!isSeparator c) = true := by
  rw [Bool.not_eq_true', ← Bool.not_eq_true, isSeparator_iff]
  rintro (rfl | rfl)
  · exact absurd h (by decide)
  · exact absurd h (by decide)

theorem IsKey.not_isSeparator (h : IsKey key) : ∀ c ∈ key.toList, (!isSeparator c) = true := by
  intro c hc
  rw [Bool.not_eq_true', ← Bool.not_eq_true, isSeparator_iff]
  exact not_or.mpr (h.unparted c hc)

theorem IsKey.toList_ne_nil (h : IsKey key) : key.toList ≠ [] := fun hnil =>
  h.nonempty (String.toList_eq_nil_iff.mp hnil)

def part (line : List Char) : Option (String × String) :=
  let key := trim (line.takeWhile (!isSeparator ·))
  let value := trim ((line.dropWhile (!isSeparator ·)).drop 1)
  if key.isEmpty then none else some (String.ofList key, String.ofList value)

theorem entry?_of_trim {c : Char} {rest : List Char} (h : trim line = c :: rest)
    (hc : c ≠ '#' ∧ c ≠ '!') : entry? line = part (c :: rest) := by
  unfold entry?
  rw [h]
  split
  · next heq => cases heq
  · next heq => exact absurd (List.cons.inj heq).1 hc.1
  · next heq => exact absurd (List.cons.inj heq).1 hc.2
  · rfl

theorem entry?_of_key {rest : List Char} (hkey : IsKey key)
    (h : trim line = key.toList ++ rest) : entry? line = part (key.toList ++ rest) := by
  obtain ⟨c, cs, hcs⟩ := List.exists_cons_of_ne_nil hkey.toList_ne_nil
  rw [hcs, List.cons_append] at h ⊢
  exact entry?_of_trim h (hkey.unmarked c (by simp [hcs]))

theorem part_parted {gap body : List Char} {separator : Char} (hkey : IsKey key)
    (hseparator : separator = '=' ∨ separator = ':') (hgap : Blank gap) :
    part (key.toList ++ gap ++ separator :: body) = some (key, String.ofList (trim body)) := by
  have hbefore : ∀ c ∈ key.toList ++ gap, (!isSeparator c) = true := by
    intro c hc
    rcases List.mem_append.mp hc with hc | hc
    · exact hkey.not_isSeparator c hc
    · exact not_isSeparator_of_isBlank (hgap c hc)
  have hmark : isSeparator separator = true := isSeparator_iff.mpr hseparator
  have htake : (separator :: body).takeWhile (!isSeparator ·) = [] := by
    simp [hmark]
  have hdrop : (separator :: body).dropWhile (!isSeparator ·) = separator :: body := by
    simp [hmark]
  have htrim : trim (key.toList ++ gap) = key.toList :=
    trim_surrounded blank_nil hgap hkey.trimmed
  rw [part, List.takeWhile_append_of_pos hbefore, List.dropWhile_append_of_pos hbefore,
    htake, hdrop, List.append_nil, htrim]
  simp [hkey.nonempty]

theorem part_bare (hkey : IsKey key) : part key.toList = some (key, "") := by
  rw [part, List.takeWhile_eq_self_iff.mpr hkey.not_isSeparator,
    List.dropWhile_eq_nil_iff.mpr hkey.not_isSeparator, (trim_eq_iff (v := key.toList)).mpr]
  · simp [hkey.nonempty, trim, trimStart, trimEnd]
  · exact ⟨hkey.trimmed, [], [], by simp [Blank], by simp [Blank], by simp⟩

theorem IsKey.head_not_blank (h : IsKey key) (gap : List Char) :
    ∀ c ∈ (key.toList ++ gap).head?, isBlank c = false := by
  intro c hc
  rw [List.head?_append_of_ne_nil _ h.toList_ne_nil] at hc
  exact h.trimmed.head c hc

theorem Setting.entry?_eq (h : Setting key value line) : entry? line = some (key, value) := by
  cases h with
  | @parted left gap gap' right separator hkey hvalue hseparator hleft hgap hgap' hright =>
    have hmark : isBlank separator = false := by
      rcases hseparator with rfl | rfl <;> decide
    have hvalued : trim (gap' ++ value.toList ++ right) = value.toList :=
      trim_surrounded hgap' hright hvalue
    have htrim :
        trim (left ++ (key.toList ++ gap) ++ separator :: (gap' ++ value.toList ++ right)) =
          key.toList ++ gap ++ separator :: trimEnd (gap' ++ value.toList ++ right) :=
      trim_mark hleft (hkey.head_not_blank gap) hmark
    rw [← List.append_assoc] at htrim
    rw [entry?_of_key hkey (htrim.trans (List.append_assoc _ _ _)), ← List.append_assoc,
      part_parted hkey hseparator hgap, trim_trimEnd, hvalued, String.ofList_toList]
  | bare hkey hvalue hleft hright =>
    have htrim := trim_surrounded hleft hright hkey.trimmed
    rw [entry?_of_key hkey (htrim.trans (List.append_nil _).symm), List.append_nil,
      part_bare hkey, hvalue]

theorem Setting.surrounded {left right : List Char} (hleft : Blank left) (hright : Blank right)
    (h : Setting key value line) : Setting key value (left ++ line ++ right) := by
  cases h with
  | @parted left' gap gap' right' separator hkey hvalue hseparator hleft' hgap hgap' hright' =>
    have hline : left ++ (left' ++ key.toList ++ gap ++
          separator :: (gap' ++ value.toList ++ right')) ++ right =
        (left ++ left') ++ key.toList ++ gap ++
          separator :: (gap' ++ value.toList ++ (right' ++ right)) := by
      simp
    rw [hline]
    exact .parted hkey hvalue hseparator (hleft.append hleft') hgap hgap' (hright'.append hright)
  | @bare left' right' hkey hvalue hleft' hright' =>
    have hline : left ++ (left' ++ key.toList ++ right') ++ right =
        (left ++ left') ++ key.toList ++ (right' ++ right) := by
      simp
    rw [hline]
    exact .bare hkey hvalue (hleft.append hleft') (hright'.append hright)

theorem part_eq_some {cs : List Char} (h : part cs = some (key, value)) :
    key ≠ "" ∧ trim (cs.takeWhile (!isSeparator ·)) = key.toList ∧
      trim ((cs.dropWhile (!isSeparator ·)).drop 1) = value.toList := by
  rw [part] at h
  split at h
  · cases h
  · next hne =>
    obtain ⟨rfl, rfl⟩ := Prod.mk.inj (Option.some.inj h)
    simpa using hne

theorem part_key {c : Char} {cs : List Char} (hblank : isBlank c = false) (hc : c ≠ '#' ∧ c ≠ '!')
    (h : part (c :: cs) = some (key, value)) :
    IsKey key ∧ ∃ gap, Blank gap ∧ (c :: cs).takeWhile (!isSeparator ·) = key.toList ++ gap := by
  obtain ⟨hne, hkey, -⟩ := part_eq_some h
  obtain ⟨htrimmed, left, gap, hleft, hgap, hbefore⟩ := trim_eq_iff.mp hkey
  have hunparted : ∀ d ∈ (c :: cs).takeWhile (!isSeparator ·), d ≠ '=' ∧ d ≠ ':' := by
    intro d hd
    have hd := List.mem_takeWhile_imp (p := fun d => !isSeparator d) hd
    rwa [Bool.not_eq_true', ← Bool.not_eq_true, isSeparator_iff, not_or] at hd
  have hfirst : ∀ d ∈ ((c :: cs).takeWhile (!isSeparator ·)).head?, d = c := by
    intro d hd
    rw [List.takeWhile_cons] at hd
    split at hd
    · exact (Option.some.inj hd).symm
    · cases hd
  rw [hbefore] at hunparted hfirst
  have hleft : left = [] := by
    cases left with
    | nil => rfl
    | cons d left =>
      have hd : d = c := hfirst d rfl
      rw [← hd, hleft d List.mem_cons_self] at hblank
      cases hblank
  subst hleft
  refine ⟨⟨hne, htrimmed, fun d hd => hunparted d (by simp [hd]), fun d hd => ?_⟩, gap, hgap, ?_⟩
  · obtain ⟨rest, hrest⟩ := List.head?_eq_some_iff.mp hd
    obtain rfl : d = c := hfirst d (by simp [hrest])
    exact hc
  · rw [hbefore, List.nil_append]

theorem setting_of_part {c : Char} {cs : List Char} (hblank : isBlank c = false)
    (hc : c ≠ '#' ∧ c ≠ '!') (h : part (c :: cs) = some (key, value)) :
    Setting key value (c :: cs) := by
  obtain ⟨hkey, gap, hgap, hbefore⟩ := part_key hblank hc h
  obtain ⟨-, -, hvalue⟩ := part_eq_some h
  have hwhole : key.toList ++ gap ++ (c :: cs).dropWhile (!isSeparator ·) = c :: cs := by
    rw [← hbefore]
    exact List.takeWhile_append_dropWhile
  cases hbehind : (c :: cs).dropWhile (!isSeparator ·) with
  | nil =>
    rw [hbehind] at hvalue
    have hempty : value = "" := String.toList_eq_nil_iff.mp (hvalue.symm.trans rfl)
    rw [hbehind, List.append_nil] at hwhole
    have hbare : Setting key value ([] ++ key.toList ++ gap) :=
      .bare hkey hempty blank_nil hgap
    rwa [List.nil_append, hwhole] at hbare
  | cons separator body =>
    rw [hbehind] at hvalue hwhole
    have hmark := List.head?_dropWhile_not (fun d => !isSeparator d) (c :: cs)
    rw [hbehind] at hmark
    have hseparator : separator = '=' ∨ separator = ':' :=
      isSeparator_iff.mp (by simpa using hmark)
    obtain ⟨htrimmed, gap', right, hgap', hright, hbody⟩ := trim_eq_iff.mp hvalue
    rw [List.drop_one, List.tail_cons] at hbody
    rw [← hwhole, hbody]
    exact .parted hkey htrimmed hseparator blank_nil hgap hgap' hright

/-- What is read from a line is what the line sets. -/
theorem entry?_eq_some_iff : entry? line = some (key, value) ↔ Setting key value line := by
  refine ⟨fun h => ?_, Setting.entry?_eq⟩
  obtain ⟨left, right, hleft, hright, hline⟩ := exists_surroundings line
  cases htrim : trim line with
  | nil => simp [htrim, entry?] at h
  | cons c cs =>
    have hc : c ≠ '#' ∧ c ≠ '!' := by
      constructor <;> rintro rfl <;> simp [htrim, entry?] at h
    have hblank : isBlank c = false := (trimmed_trim line).head c (by simp [htrim])
    rw [entry?_of_trim htrim hc] at h
    rw [hline, htrim]
    exact (setting_of_part hblank hc h).surrounded hleft hright

theorem Setting.isKey (h : Setting key value line) : IsKey key ∧ Trimmed value.toList := by
  cases h with
  | parted hkey hvalue _ _ _ _ _ => exact ⟨hkey, hvalue⟩
  | bare hkey hvalue _ _ => exact ⟨hkey, hvalue ▸ trimmed_nil⟩

theorem Setting.mem_line {c : Char} (h : Setting key value line) (hc : c ∈ value.toList) :
    c ∈ line := by
  cases h with
  | parted => simp [hc]
  | bare _ hvalue _ _ =>
    rw [hvalue] at hc
    cases hc

theorem entry?_append {e : List Char} (he : Blank e) : entry? (line ++ e) = entry? line := by
  unfold entry?
  rw [trim_append he]

theorem entry?_nil : entry? [] = none :=
  rfl

/-- A line that sets nothing: white space, or a comment behind white space. -/
def Ignored (line : List Char) : Prop :=
  Blank line ∨
    ∃ left mark rest, Blank left ∧ (mark = '#' ∨ mark = '!') ∧ line = left ++ mark :: rest

theorem entry?_of_ignored (h : Ignored line) : entry? line = none := by
  rcases h with h | ⟨left, mark, rest, hleft, hmark, rfl⟩
  · unfold entry?
    rw [trim_eq_nil_iff.mpr h]
  · have hblank : isBlank mark = false := by
      rcases hmark with rfl | rfl <;> decide
    have htrim : trim (left ++ [] ++ mark :: rest) = [] ++ mark :: trimEnd rest :=
      trim_mark hleft (by simp) hblank
    rw [List.append_nil, List.nil_append] at htrim
    unfold entry?
    rw [htrim]
    rcases hmark with rfl | rfl <;> rfl

/-- Lines that set these keys to these values one after the other, and lines between them that
set nothing. -/
inductive Written : List (String × String) → List (List Char) → Prop
  | nil : Written [] []
  | ignored {line : List Char} {entries : List (String × String)} {ls : List (List Char)}
      (hline : Ignored line) (h : Written entries ls) : Written entries (line :: ls)
  | setting {line : List Char} {key value : String} {entries : List (String × String)}
      {ls : List (List Char)} (hline : Setting key value line) (h : Written entries ls) :
      Written ((key, value) :: entries) (line :: ls)

def plainLine (entry : String × String) : List Char :=
  entry.1.toList ++ '=' :: entry.2.toList

theorem written_plain {entries : List (String × String)}
    (h : ∀ entry ∈ entries, IsKey entry.1 ∧ Trimmed entry.2.toList) :
    Written entries (entries.map plainLine) := by
  induction entries with
  | nil => exact .nil
  | cons entry entries ih =>
    obtain ⟨hentry, hrest⟩ := List.forall_mem_cons.mp h
    have hline := Setting.parted hentry.1 hentry.2 (Or.inl rfl) blank_nil blank_nil blank_nil
      blank_nil
    exact .setting (by simpa [plainLine] using hline) (ih hrest)

theorem Written.setting_of_mem {entries : List (String × String)} {ls : List (List Char)}
    (h : Written entries ls) : ∀ entry ∈ entries, ∃ line ∈ ls, Setting entry.1 entry.2 line := by
  induction h with
  | nil => simp
  | ignored _ _ ih =>
    intro entry hentry
    obtain ⟨line, hline, hsetting⟩ := ih entry hentry
    exact ⟨line, List.mem_cons_of_mem _ hline, hsetting⟩
  | setting hline _ ih =>
    intro entry hentry
    rcases List.mem_cons.mp hentry with rfl | hentry
    · exact ⟨_, List.mem_cons_self, hline⟩
    · obtain ⟨line, hmem, hsetting⟩ := ih entry hentry
      exact ⟨line, List.mem_cons_of_mem _ hmem, hsetting⟩

theorem Written.filterMap {entries : List (String × String)} {ls : List (List Char)}
    (h : Written entries ls) : ls.filterMap entry? = entries := by
  induction h with
  | nil => rfl
  | ignored hline _ ih => rw [List.filterMap_cons_none (entry?_of_ignored hline), ih]
  | setting hline _ ih => rw [List.filterMap_cons_some hline.entry?_eq, ih]

/-- What the lines of a text set, in order. -/
def entriesOf (text : String) : List (String × String) :=
  (lines text.toList).filterMap entry?

def setAll (p : Properties) (entries : List (String × String)) : Properties :=
  entries.foldl (fun p entry => p.set entry.1 entry.2) p

theorem ofText_eq (text : String) : ofText text = setAll {} (entriesOf text) := by
  rw [ofText, entriesOf, setAll, List.foldl_filterMap]
  congr 1
  funext p line
  rw [addLine]
  cases entry? line <;> rfl

theorem entriesOf_below (a b : String) :
    entriesOf (a ++ "\n" ++ b) = entriesOf a ++ entriesOf b := by
  have htext : (a ++ "\n" ++ b).toList = a.toList ++ '\n' :: b.toList := by
    simp
  rw [entriesOf, htext, filterMap_lines_append (fun _ _ => entry?_append) entry?_nil]
  rfl

theorem lookup_eq_some_iff_mem {entries : List (String × String)}
    (h : (entries.map Prod.fst).Nodup) :
    entries.lookup key = some value ↔ (key, value) ∈ entries := by
  induction entries with
  | nil => simp
  | cons entry entries ih =>
    obtain ⟨name, v⟩ := entry
    obtain ⟨hname, hrest⟩ := List.nodup_cons.mp h
    rw [List.lookup_cons, List.mem_cons]
    by_cases heq : key = name
    · subst heq
      have hnone : (key, value) ∉ entries := fun hmem =>
        hname (List.mem_map.mpr ⟨_, hmem, rfl⟩)
      simp [hnone, eq_comm]
    · have hne : (key == name) = false := by simpa using heq
      rw [hne, ih hrest]
      simp [heq]

theorem entriesOf_of_written {entries : List (String × String)} {ls : List (List Char)}
    (h : Written entries ls) (hls : Lined ls text.toList) : entriesOf text = entries := by
  rw [entriesOf, filterMap_lines_of_lined (fun _ _ => entry?_append) entry?_nil hls, h.filterMap]

section Set

variable {p : Properties}

theorem lookup_filter_ne {entries : List (String × String)} {name : String} (h : name ≠ key) :
    (entries.filter (·.1 != key)).lookup name = entries.lookup name := by
  induction entries with
  | nil => rfl
  | cons entry entries ih =>
    by_cases hkey : entry.1 = key
    · have hne : (name == entry.1) = false := by simpa [hkey] using h
      rw [List.filter_cons_of_neg (by simp [hkey]), ih, List.lookup_cons, hne]
    · rw [List.filter_cons_of_pos (by simp [hkey]), List.lookup_cons, List.lookup_cons, ih]

theorem get?_set (p : Properties) (key value name : String) :
    (p.set key value).get? name = if name = key then some value else p.get? name := by
  rw [set, get?, get?, List.lookup_cons]
  by_cases h : name = key
  · simp [h]
  · have hne : (name == key) = false := by simpa using h
    rw [hne, if_neg h]
    exact lookup_filter_ne h

theorem nodup_set (h : (p.entries.map Prod.fst).Nodup) (key value : String) :
    ((p.set key value).entries.map Prod.fst).Nodup := by
  rw [set, List.map_cons, List.nodup_cons]
  constructor
  · simp
  · exact h.sublist (List.filter_sublist.map _)

theorem get?_setAll (p : Properties) (entries : List (String × String)) (key : String) :
    (setAll p entries).get? key = (entries.reverse.lookup key).or (p.get? key) := by
  induction entries generalizing p with
  | nil => rfl
  | cons entry entries ih =>
    rw [setAll, List.foldl_cons, ← setAll, ih, get?_set, List.reverse_cons, List.lookup_append,
      Option.or_assoc, List.lookup_cons]
    by_cases h : key = entry.1
    · simp [h]
    · have hne : (key == entry.1) = false := by simpa using h
      rw [if_neg h, hne]
      rfl

theorem nodup_setAll (h : (p.entries.map Prod.fst).Nodup) (entries : List (String × String)) :
    ((setAll p entries).entries.map Prod.fst).Nodup := by
  induction entries generalizing p with
  | nil => exact h
  | cons entry entries ih => exact ih (nodup_set h entry.1 entry.2)

end Set

theorem get?_ofText (text key : String) :
    (ofText text).get? key = (entriesOf text).reverse.lookup key := by
  rw [ofText_eq, get?_setAll]
  exact Option.or_none

theorem nodup_ofText (text : String) : ((ofText text).entries.map Prod.fst).Nodup := by
  rw [ofText_eq]
  exact nodup_setAll (p := {}) List.nodup_nil _

theorem get?_of_mem_entriesOf (h : ((entriesOf text).map Prod.fst).Nodup)
    (hmem : (key, value) ∈ entriesOf text) : (ofText text).get? key = some value := by
  rw [get?_ofText, lookup_eq_some_iff_mem, List.mem_reverse]
  · exact hmem
  · rwa [List.map_reverse, (List.reverse_perm _).nodup_iff]

def Sets (text key value : String) : Prop :=
  ∃ before line after, lines text.toList = before ++ line :: after ∧ Setting key value line ∧
    ∀ l ∈ after, ∀ v, ¬ Setting key v l

theorem lookup_reverse_filterMap_iff {α : Type} {f : α → Option (String × String)} {xs : List α} :
    (xs.filterMap f).reverse.lookup key = some value ↔
      ∃ before x after, xs = before ++ x :: after ∧ f x = some (key, value) ∧
        ∀ y ∈ after, ∀ v, f y ≠ some (key, v) := by
  constructor
  · intro h
    obtain ⟨later, earlier, hfound, hlater⟩ := List.lookup_eq_some_iff.mp h
    have hentries : xs.filterMap f = earlier.reverse ++ (key, value) :: later.reverse := by
      rw [← List.reverse_inj]
      simp [hfound]
    obtain ⟨before, behind, rfl, -, hbehind⟩ := List.filterMap_eq_append_iff.mp hentries
    obtain ⟨skipped, x, after, rfl, -, hx, hafter⟩ := List.filterMap_eq_cons_iff.mp hbehind
    refine ⟨before ++ skipped, x, after, by simp, hx, fun y hy v hv => ?_⟩
    have hmem : (key, v) ∈ later := by
      rw [← List.mem_reverse, ← hafter]
      exact List.mem_filterMap.mpr ⟨y, hy, hv⟩
    simpa using hlater _ hmem
  · rintro ⟨before, x, after, rfl, hx, hafter⟩
    have hnone : (after.filterMap f).reverse.lookup key = none := by
      rw [List.lookup_eq_none_iff]
      intro entry hentry
      obtain ⟨y, hy, hv⟩ := List.mem_filterMap.mp (List.mem_reverse.mp hentry)
      rw [bne_iff_ne]
      rintro rfl
      exact hafter y hy entry.2 hv
    rw [List.filterMap_append, List.filterMap_cons_some hx, List.reverse_append,
      List.reverse_cons, List.append_assoc, List.lookup_append, hnone]
    simp

theorem get?_eq_some_iff : (ofText text).get? key = some value ↔ Sets text key value := by
  rw [get?_ofText, entriesOf, lookup_reverse_filterMap_iff]
  simp only [Sets, ne_eq, entry?_eq_some_iff]

/-- A text has each key with the value that the last line with this key sets, once, and no other
keys. Keys and values are trimmed, and a key is not empty, looks like no comment and holds no
mark that parts a line. Of a text with another one below it the lower one has the say about its
keys, and the upper one about all others. -/
theorem ofText_below (a b : String) :
    (∀ key, (ofText (a ++ "\n" ++ b)).get? key =
      ((ofText b).get? key).or ((ofText a).get? key)) ∧
    ∀ text, (∀ key value, (key, value) ∈ (ofText text).entries ↔ Sets text key value) ∧
      ((ofText text).entries.map Prod.fst).Nodup ∧
      ∀ entry ∈ (ofText text).entries, IsKey entry.1 ∧ Trimmed entry.2.toList := by
  have hentries : ∀ text key value,
      (key, value) ∈ (ofText text).entries ↔ Sets text key value := fun text key value =>
    (lookup_eq_some_iff_mem (nodup_ofText text)).symm.trans get?_eq_some_iff
  refine ⟨fun key => ?_, fun text => ⟨hentries text, nodup_ofText text, fun entry hentry => ?_⟩⟩
  · simp only [get?_ofText, entriesOf_below, List.reverse_append, List.lookup_append]
  · obtain ⟨_, _, _, -, hsetting, -⟩ := (hentries text entry.1 entry.2).mp hentry
    exact hsetting.isKey

def upperText : String :=
  "# the old server\r\nuser = hps\npassword:p@ss/w#rd:1\nhostname\r"

def lowerText : String :=
  "\r\n= no key\n\tpassword =\nport : 5433 = default"

theorem password_overridden :
    (ofText (upperText ++ "\n" ++ lowerText)).get? "password" = some "" ∧
      (ofText (upperText ++ "\n" ++ lowerText)).get? "user" = some "hps" ∧
      Sets upperText "password" "p@ss/w#rd:1" ∧ ("port", "5433 = default") ∈
        (ofText lowerText).entries ∧ IsKey "port" ∧ Trimmed "5433 = default".toList := by
  obtain ⟨hbelow, htext⟩ := ofText_below upperText lowerText
  have hport : ("port", "5433 = default") ∈ (ofText lowerText).entries := by
    decide +kernel
  have hpassword : ("password", "p@ss/w#rd:1") ∈ (ofText upperText).entries := by
    decide +kernel
  refine ⟨?_, ?_, ((htext upperText).1 _ _).mp hpassword, hport, (htext lowerText).2.2 _ hport⟩
  · rw [hbelow]
    decide +kernel
  · rw [hbelow]
    decide +kernel

end RunConditions.Properties
