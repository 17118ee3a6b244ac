import RunConditions.Xml.Attribute

/-!
# Writing tags

A tag is written as its name and then its attributes, each with its value
between double quotes. In a value `<`, `&` and the quote are replaced by their
predefined references, and any other character may be. Reading such a tag finds
every attribute with its value.
-/

set_option autoImplicit false

namespace RunConditions.Xml
open Text

def IsWord (name : String) : Prop :=
  name.toList ≠ [] ∧ name.toList.all Char.isLower = true

instance (name : String) : Decidable (IsWord name) :=
  inferInstanceAs (Decidable (_ ∧ _))

section Letters

variable {c d : Char} {name : String}

theorem ne_of_isLower (hc : c.isLower = true) (hd : d.isLower = false) : c ≠ d := by
  intro h
  rw [h, hd] at hc
  cases hc

theorem isSpace_of_isLower (hc : c.isLower = true) : isSpace c = false := by
  have h1 := ne_of_isLower hc (d := ' ') (by decide)
  have h2 := ne_of_isLower hc (d := '\t') (by decide)
  have h3 := ne_of_isLower hc (d := '\r') (by decide)
  have h4 := ne_of_isLower hc (d := '\n') (by decide)
  simp [isSpace, h1, h2, h3, h4]

theorem isKeyChar_of_isLower (hc : c.isLower = true) : isKeyChar c = true := by
  have h := ne_of_isLower hc (d := '=') (by decide)
  simp [isKeyChar, isSpace_of_isLower hc, h]

theorem IsWord.isLower (h : IsWord name) (hc : c ∈ name.toList) : c.isLower = true :=
  List.all_eq_true.mp h.2 c hc

theorem IsWord.notMem (h : IsWord name) (hd : d.isLower = false) : d ∉ name.toList := by
  intro hmem
  exact ne_of_isLower (h.isLower hmem) hd rfl

end Letters

/-- A value and how it may be written between double quotes. -/
inductive Escaped : List Char → List Char → Prop
  | nil : Escaped [] []
  | plain {c : Char} {value raw : List Char} : c ≠ '<' → c ≠ '&' → c ≠ '"' →
      Escaped value raw → Escaped (c :: value) (c :: raw)
  | reference {name : List Char} {c : Char} {value raw : List Char} : (name, c) ∈ predefined →
      Escaped value raw → Escaped (c :: value) ('&' :: (name ++ ';' :: raw))

theorem exists_escaped (value : List Char) : ∃ raw, Escaped value raw := by
  induction value with
  | nil => exact ⟨[], .nil⟩
  | cons c value ih =>
    obtain ⟨raw, hraw⟩ := ih
    by_cases hl : c = '<'
    · subst hl
      exact ⟨_, @Escaped.reference ['l', 't'] _ _ _ (by decide) hraw⟩
    · by_cases ha : c = '&'
      · subst ha
        exact ⟨_, @Escaped.reference ['a', 'm', 'p'] _ _ _ (by decide) hraw⟩
      · by_cases hq : c = '"'
        · subst hq
          exact ⟨_, @Escaped.reference ['q', 'u', 'o', 't'] _ _ _ (by decide) hraw⟩
        · exact ⟨_, .plain hl ha hq hraw⟩

theorem predefined_name {name : List Char} {c : Char} (h : (name, c) ∈ predefined) :
    (∀ d ∈ name, endsReference d = false ∧ d ≠ '"') ∧ ∀ place, resolve place name = .ok c := by
  simp only [predefined, List.mem_cons, Prod.mk.injEq, List.not_mem_nil, or_false] at h
  rcases h with ⟨rfl, rfl⟩ | ⟨rfl, rfl⟩ | ⟨rfl, rfl⟩ | ⟨rfl, rfl⟩ | ⟨rfl, rfl⟩ <;>
    exact ⟨by simp [endsReference], fun _ => rfl⟩

theorem Escaped.quote_notMem {value raw : List Char} (h : Escaped value raw) : '"' ∉ raw := by
  induction h with
  | nil => simp
  | plain _ _ hq _ ih => simp [hq.symm, ih]
  | reference hname _ ih =>
    have hq : '"' ∉ _ := fun hmem => ((predefined_name hname).1 _ hmem).2 rfl
    simp [hq, ih]

theorem unescapeFrom_plain {total : Nat} {c : Char} (hc : c ≠ '&') (cs : List Char) :
    unescapeFrom total (c :: cs) = (unescapeFrom total cs).map (c :: ·) := by
  rw [unescapeFrom]
  exact hc

theorem unescapeFrom_reference {total : Nat} {name raw value : List Char} {c : Char}
    (hname : (name, c) ∈ predefined) (hraw : unescapeFrom total raw = .ok value) :
    unescapeFrom total ('&' :: (name ++ ';' :: raw)) = .ok (c :: value) := by
  obtain ⟨hends, hresolve⟩ := predefined_name hname
  have hall : ∀ d ∈ name, (!endsReference d) = true := fun d hd => by simp [(hends d hd).1]
  have hdrop : (name ++ ';' :: raw).dropWhile (!endsReference ·) = ';' :: raw := by
    rw [List.dropWhile_append_of_pos hall]
    rfl
  have htake : (name ++ ';' :: raw).takeWhile (!endsReference ·) = name := by
    rw [List.takeWhile_append_of_pos hall]
    simp [endsReference]
  rw [unescapeFrom]
  split
  · rename_i rest hrest
    obtain rfl : raw = rest := by simpa [hdrop] using hrest
    simp only [htake, hresolve, hraw]
    rfl
  · rename_i hrest
    exact absurd hdrop (hrest raw)

theorem Escaped.unescape {value raw : List Char} (h : Escaped value raw) :
    unescape raw = .ok value := by
  have hfrom : ∀ total, unescapeFrom total raw = .ok value := by
    intro total
    induction h with
    | nil => rw [unescapeFrom]
    | plain _ ha _ _ ih => rw [unescapeFrom_plain ha, ih]; rfl
    | reference hname _ ih => exact unescapeFrom_reference hname ih
  exact hfrom _

def attributesText : List (String × List Char) → List Char
  | [] => []
  | (name, raw) :: rest => ' ' :: (name.toList ++ '=' :: '"' :: (raw ++ '"' :: attributesText rest))

def Tag.written (name : String) (attributes : List (String × List Char)) : Tag :=
  ⟨name.toList ++ attributesText attributes⟩

/-- Attributes with words for names and values that end where they are closed. -/
def Attributes (attributes : List (String × List Char)) : Prop :=
  ∀ a ∈ attributes, IsWord a.1 ∧ '"' ∉ a.2

theorem breakOn_quote {raw : List Char} (h : '"' ∉ raw) (rest : List Char) :
    breakOn ['"'] (raw ++ '"' :: rest) = some (raw, rest) := by
  induction raw with
  | nil => simp [breakOn]
  | cons c raw ih =>
    have hc : c ≠ '"' := fun hc => h (by simp [hc])
    have hraw : '"' ∉ raw := fun hmem => h (by simp [hmem])
    rw [List.cons_append, breakOn, ih hraw]
    simp [hc.symm]

theorem readValue_written {raw : List Char} (h : '"' ∉ raw) (total : Nat) (rest : List Char) :
    readValue total ('"' :: (raw ++ '"' :: rest)) = .ok (raw, rest) := by
  simp [readValue, isSpace, breakOn_quote h]

theorem findAttribute_step {total : Nat} (wanted : List Char)
    {earlier : List (List Char × Nat)} {first : Char} {cs tail behind value rest : List Char}
    (hstart : cs.dropWhile isSpace = first :: tail)
    (hafter : afterEquals total (tail.dropWhile isKeyChar) = .ok behind)
    (hnew : earlier.lookup (first :: tail.takeWhile isKeyChar) = none)
    (hvalue : readValue total behind = .ok (value, rest)) :
    ∃ place, findAttribute total wanted earlier cs =
      if first :: tail.takeWhile isKeyChar = wanted then .ok (some value)
      else findAttribute total wanted ((first :: tail.takeWhile isKeyChar, place) :: earlier)
        rest := by
  refine ⟨total - byteLength (first :: tail), ?_⟩
  rw [findAttribute]
  split
  · rename_i hnil
    rw [hstart] at hnil
    cases hnil
  · rename_i first' tail' hcons
    rw [hstart, List.cons.injEq] at hcons
    obtain ⟨rfl, rfl⟩ := hcons
    simp only [hnew]
    split
    · rename_i fault hfault
      rw [hafter] at hfault
      cases hfault
    · rename_i behind' hok
      rw [hafter, Except.ok.injEq] at hok
      subst hok
      split
      · rename_i fault hfault
        rw [hvalue] at hfault
        cases hfault
      · rename_i value' rest' hok
        rw [hvalue, Except.ok.injEq, Prod.mk.injEq] at hok
        obtain ⟨rfl, rfl⟩ := hok
        rfl

theorem findAttribute_cons (total : Nat) (wanted : List Char) {earlier : List (List Char × Nat)}
    {name : String} {raw : List Char} (hword : IsWord name) (hquote : '"' ∉ raw)
    (hnew : earlier.lookup name.toList = none) (rest : List Char) :
    ∃ place, findAttribute total wanted earlier
        (' ' :: (name.toList ++ '=' :: '"' :: (raw ++ '"' :: rest))) =
      if name.toList = wanted then .ok (some raw)
      else findAttribute total wanted ((name.toList, place) :: earlier) rest := by
  obtain ⟨first, tail, hname⟩ : ∃ first tail, name.toList = first :: tail :=
    List.exists_cons_of_ne_nil hword.1
  have hfirst : isSpace first = false :=
    isSpace_of_isLower (hword.isLower (by simp [hname]))
  have hkey : ∀ c ∈ tail, isKeyChar c = true := by
    intro c hc
    exact isKeyChar_of_isLower (hword.isLower (by simp [hname, hc]))
  have hequals : isKeyChar '=' = false := by decide
  generalize hbehind : '"' :: (raw ++ '"' :: rest) = behind
  have hstart : (' ' :: (name.toList ++ '=' :: behind)).dropWhile isSpace =
      first :: (tail ++ '=' :: behind) := by
    rw [hname, List.dropWhile_cons_of_pos (by decide), List.cons_append,
      List.dropWhile_cons_of_neg (by simp [hfirst])]
  have htake : (tail ++ '=' :: behind).takeWhile isKeyChar = tail := by
    rw [List.takeWhile_append_of_pos hkey, List.takeWhile_cons_of_neg (by simp [hequals]),
      List.append_nil]
  have hafter : afterEquals total ((tail ++ '=' :: behind).dropWhile isKeyChar) = .ok behind := by
    rw [List.dropWhile_append_of_pos hkey, List.dropWhile_cons_of_neg (by simp [hequals])]
    rfl
  have hvalue : readValue total behind = .ok (raw, rest) := by
    rw [← hbehind]
    exact readValue_written hquote total rest
  have hnew' : earlier.lookup (first :: (tail ++ '=' :: behind).takeWhile isKeyChar) = none := by
    rw [htake, ← hname, hnew]
  have hstep := findAttribute_step wanted hstart hafter hnew' hvalue
  rwa [htake, ← hname] at hstep

theorem findAttribute_written (total : Nat) (wanted : String)
    {attributes : List (String × List Char)} (h : Attributes attributes)
    (hdistinct : (attributes.map Prod.fst).Nodup) (earlier : List (List Char × Nat))
    (hearlier : ∀ a ∈ attributes, earlier.lookup a.1.toList = none) :
    findAttribute total wanted.toList earlier (attributesText attributes) =
      .ok (attributes.lookup wanted) := by
  induction attributes generalizing earlier with
  | nil =>
    rw [attributesText, findAttribute]
    rfl
  | cons a attributes ih =>
    obtain ⟨name, raw⟩ := a
    obtain ⟨hword, hquote⟩ := h (name, raw) (by simp)
    rw [List.map_cons, List.nodup_cons] at hdistinct
    obtain ⟨place, hstep⟩ := findAttribute_cons total wanted.toList hword hquote
      (hearlier (name, raw) (by simp)) (attributesText attributes)
    rw [attributesText, hstep]
    by_cases hwanted : name = wanted
    · subst hwanted
      simp
    · have hne : name.toList ≠ wanted.toList := fun heq => hwanted (String.toList_inj.mp heq)
      rw [if_neg hne, List.lookup_cons, ih (fun a ha => h a (by simp [ha])) hdistinct.2]
      · rw [show (wanted == name) = false by simp [Ne.symm hwanted]]
      · intro a ha
        have hother : a.1.toList ≠ name.toList := by
          intro heq
          exact hdistinct.1 (List.mem_map.mpr ⟨a, ha, String.toList_inj.mp heq⟩)
        rw [List.lookup_cons, show (a.1.toList == name.toList) = false by simp [hother]]
        exact hearlier a (by simp [ha])

section Tags

variable {name : String} {attributes : List (String × List Char)}

theorem attributesText_cases (attributes : List (String × List Char)) :
    attributesText attributes = [] ∨ ∃ rest, attributesText attributes = ' ' :: rest := by
  cases attributes with
  | nil => exact Or.inl rfl
  | cons a attributes => exact Or.inr ⟨_, rfl⟩

theorem IsWord.notSpace (hname : IsWord name) : ∀ c ∈ name.toList, (!isSpace c) = true := by
  intro c hc
  rw [isSpace_of_isLower (hname.isLower hc)]
  rfl

@[simp]
theorem Tag.name_written (hname : IsWord name) : (Tag.written name attributes).name = name := by
  have htake : (name.toList ++ attributesText attributes).takeWhile (!isSpace ·) =
      name.toList := by
    rw [List.takeWhile_append_of_pos hname.notSpace]
    rcases attributesText_cases attributes with h | ⟨rest, h⟩ <;> simp [h, isSpace]
  rw [Tag.name, Tag.written, htake, String.ofList_toList]

theorem Tag.attribute?_written (hname : IsWord name) (h : Attributes attributes)
    (hdistinct : (attributes.map Prod.fst).Nodup) (wanted : String) :
    (Tag.written name attributes).attribute? wanted = .ok (attributes.lookup wanted) := by
  have hdrop : (name.toList ++ attributesText attributes).dropWhile (!isSpace ·) =
      attributesText attributes := by
    rw [List.dropWhile_append_of_pos hname.notSpace]
    rcases attributesText_cases attributes with h | ⟨rest, h⟩ <;> simp [h, isSpace]
  rw [Tag.attribute?, Tag.written, hdrop]
  exact findAttribute_written _ wanted h hdistinct [] fun _ _ => rfl

theorem breakTag_plain {cs : List Char} (h : ∀ c ∈ cs, c ≠ '>' ∧ c ≠ '"' ∧ c ≠ '\'')
    (rest : List Char) :
    breakTag none (cs ++ rest) =
      (breakTag none rest).map fun (content, after) => (cs ++ content, after) := by
  induction cs with
  | nil => simp
  | cons c cs ih =>
    obtain ⟨hend, hdouble, hsingle⟩ := h c (by simp)
    have hplain : ¬ (c = '"' ∨ c = '\'') := by simp [hdouble, hsingle]
    rw [List.cons_append, breakTag, if_neg hplain, ih fun d hd => h d (by simp [hd])]
    · simp [Function.comp_def]
    · exact hend

theorem breakTag_quoted {raw : List Char} (h : '"' ∉ raw) (rest : List Char) :
    breakTag (some '"') (raw ++ '"' :: rest) =
      (breakTag none rest).map fun (content, after) => (raw ++ '"' :: content, after) := by
  induction raw with
  | nil => simp [breakTag]
  | cons c raw ih =>
    have hc : c ≠ '"' := fun hc => h (by simp [hc])
    rw [List.cons_append, breakTag, if_neg hc, ih fun hmem => h (by simp [hmem])]
    simp [Function.comp_def]

theorem IsWord.unquoted (hname : IsWord name) :
    ∀ c ∈ name.toList, c ≠ '>' ∧ c ≠ '"' ∧ c ≠ '\'' := by
  intro c hc
  have hlower := hname.isLower hc
  exact ⟨ne_of_isLower hlower (by decide), ne_of_isLower hlower (by decide),
    ne_of_isLower hlower (by decide)⟩

theorem breakTag_attributes (h : Attributes attributes) (rest : List Char) :
    breakTag none (attributesText attributes ++ rest) =
      (breakTag none rest).map fun (content, after) =>
        (attributesText attributes ++ content, after) := by
  induction attributes with
  | nil => simp [attributesText]
  | cons a attributes ih =>
    obtain ⟨name, raw⟩ := a
    obtain ⟨hword, hquote⟩ := h (name, raw) (by simp)
    have hstart : ∀ c ∈ ' ' :: (name.toList ++ ['=']), c ≠ '>' ∧ c ≠ '"' ∧ c ≠ '\'' := by
      intro c hc
      rw [List.mem_cons, List.mem_append, List.mem_singleton] at hc
      rcases hc with rfl | hc | rfl
      · decide
      · exact hword.unquoted c hc
      · decide
    have htext : attributesText ((name, raw) :: attributes) ++ rest =
        (' ' :: (name.toList ++ ['='])) ++
          '"' :: (raw ++ '"' :: (attributesText attributes ++ rest)) := by
      simp [attributesText]
    rw [htext, breakTag_plain hstart, breakTag, if_pos (Or.inl rfl), breakTag_quoted hquote,
      ih fun a ha => h a (by simp [ha])]
    · simp [attributesText, Function.comp_def]
    · simp

theorem breakTag_written (hname : IsWord name) (h : Attributes attributes) (rest : List Char) :
    breakTag none ((Tag.written name attributes).content ++ rest) =
      (breakTag none rest).map fun (content, after) =>
        ((Tag.written name attributes).content ++ content, after) := by
  rw [Tag.written, List.append_assoc, breakTag_plain hname.unquoted, breakTag_attributes h]
  simp [Function.comp_def]

end Tags

end RunConditions.Xml
