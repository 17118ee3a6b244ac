import RunConditions.Parameters
import RunConditions.Proofs.PropertyLines
import RunConditions.Proofs.Sequence

/-!
# Connection parameters and the texts that set them

The parameters of a text are those that its lines set, and a text sets them
just if it sets the four that are required and no port that is no number of 16
bits. Every setting that is trimmed and stands on one line can be written, and
is read again from any layout of the lines and in any order of them.
-/

set_option autoImplicit false

namespace RunConditions

namespace Numeral

structure Digits (cs : List Char) (n : Nat) : Prop where
  nonempty : cs ≠ []
  isDigit : ∀ c ∈ cs, c.isDigit = true
  value : Nat.ofDigitChars 10 cs 0 = n

/-- A text of a number, as its digits or with a plus sign before them. -/
def Denotes (cs : List Char) (n : Nat) : Prop :=
  Digits cs n ∨ ∃ digits, cs = '+' :: digits ∧ Digits digits n

theorem digitValue?_ten (c : Char) :
    digitValue? 10 c = if c.isDigit then some (c.toNat - '0'.toNat) else none := by
  rw [digitValue?]
  by_cases hc : c.isDigit = true
  · obtain ⟨-, hle⟩ := Char.isDigit_iff_toNat.mp hc
    have hlt : c.toNat - '0'.toNat < 10 := by
      have hzero : '0'.toNat = 48 := rfl
      have hnine : '9'.toNat = 57 := rfl
      omega
    rw [if_pos hc, if_pos hc, Option.filter_some, if_pos (decide_eq_true hlt)]
  · -- A letter counts from ten, so that it is no decimal digit.
    rw [if_neg hc, if_neg hc]
    split
    · simp
    · split <;> simp

theorem le_ofDigitChars (cs : List Char) (value : Nat) :
    value ≤ Nat.ofDigitChars 10 cs value := by
  induction cs generalizing value with
  | nil => exact Nat.le_refl value
  | cons c cs ih =>
    rw [Nat.ofDigitChars_cons]
    exact Nat.le_trans (by omega) (ih _)

theorem readDigits_eq_ok_iff {limit value n : Nat} {cs : List Char} (h : value ≤ limit) :
    readDigits 10 limit value cs = .ok n ↔
      (∀ c ∈ cs, c.isDigit = true) ∧ Nat.ofDigitChars 10 cs value = n ∧ n ≤ limit := by
  induction cs generalizing value with
  | nil =>
    simp only [readDigits, Nat.ofDigitChars_nil, Except.ok.injEq]
    constructor
    · rintro rfl
      exact ⟨by simp, rfl, h⟩
    · rintro ⟨-, rfl, -⟩
      rfl
  | cons c cs ih =>
    rw [readDigits, digitValue?_ten, Nat.ofDigitChars_cons, List.forall_mem_cons]
    by_cases hc : c.isDigit = true
    · rw [if_pos hc]
      dsimp only
      split
      · next hle => rw [ih hle, and_iff_right hc]
      · next hgt =>
        have hmore := le_ofDigitChars cs (10 * value + (c.toNat - '0'.toNat))
        simp only [reduceCtorEq, false_iff]
        rintro ⟨-, rfl, hle⟩
        exact hgt (hmore.trans hle)
    · simp [hc]

theorem not_digits_plus {cs : List Char} {n : Nat} : ¬ Digits ('+' :: cs) n := fun h =>
  absurd (h.isDigit '+' List.mem_cons_self) (by decide)

theorem denotes_plus_iff {cs : List Char} {n : Nat} : Denotes ('+' :: cs) n ↔ Digits cs n := by
  constructor
  · rintro (h | ⟨digits, heq, h⟩)
    · exact absurd h not_digits_plus
    · rwa [(List.cons.inj heq).2]
  · exact fun h => Or.inr ⟨cs, rfl, h⟩

theorem denotes_iff {cs : List Char} {n : Nat} (h : ∀ rest, cs ≠ '+' :: rest) :
    Denotes cs n ↔ Digits cs n := by
  constructor
  · rintro (hdigits | ⟨digits, heq, -⟩)
    · exact hdigits
    · exact absurd heq (h digits)
  · exact Or.inl

theorem readDigits_iff {limit n : Nat} {cs : List Char} (h : cs ≠ []) :
    readDigits 10 limit 0 cs = .ok n ↔ Digits cs n ∧ n ≤ limit := by
  rw [readDigits_eq_ok_iff (Nat.zero_le limit)]
  constructor
  · rintro ⟨hdigits, hvalue, hle⟩
    exact ⟨⟨h, hdigits, hvalue⟩, hle⟩
  · rintro ⟨⟨-, hdigits, hvalue⟩, hle⟩
    exact ⟨hdigits, hvalue, hle⟩

theorem readNat_eq_ok_iff {limit n : Nat} {cs : List Char} :
    readNat 10 limit cs = .ok n ↔ Denotes cs n ∧ n ≤ limit := by
  rw [readNat.eq_def]
  split
  · rw [denotes_iff (by simp)]
    simp only [reduceCtorEq, false_iff]
    rintro ⟨hdigits, -⟩
    exact hdigits.nonempty rfl
  · next c rest => rw [readDigits_iff (by simp), denotes_plus_iff]
  · next hne hplus =>
    by_cases hsign : cs = ['+']
    · subst hsign
      rw [denotes_plus_iff, readDigits_iff (by simp)]
      simp only [not_digits_plus, false_and, false_iff]
      rintro ⟨hdigits, -⟩
      exact hdigits.nonempty rfl
    · rw [readDigits_iff (fun h => hne h), denotes_iff]
      rintro (_ | ⟨c, rest⟩) rfl
      · exact hsign rfl
      · exact hplus c rest rfl

theorem digits_toDigits (n : Nat) : Digits (Nat.toDigits 10 n) n :=
  ⟨Nat.toDigits_ne_nil, fun _ hc => Nat.isDigit_of_mem_toDigits (by decide) (by decide) hc,
    Nat.ofDigitChars_ten_toDigits⟩

end Numeral

namespace Parameters
open Properties Text

variable {ps : Properties} {p : Parameters} {text key : String}

def requiredKeys : List String :=
  ["user", "password", "database", "hostname"]

def IsPort (cs : List Char) : Prop :=
  ∃ n, Numeral.Denotes cs n ∧ n ≤ 65535

theorem readPort_of_denotes {value : String} {n : Nat} (hvalue : ps.get? "port" = some value)
    (h : Numeral.Denotes value.toList n) (hn : n ≤ 65535) : readPort ps = .ok (UInt16.ofNat n) := by
  rw [readPort, hvalue]
  dsimp only
  rw [Numeral.readNat_eq_ok_iff.mpr ⟨h, hn⟩]

theorem readPort_of_no_port {value : String} (hvalue : ps.get? "port" = some value)
    (h : ¬ IsPort value.toList) :
    ∃ fault, readPort ps = .error (.configuration (.badPort value fault)) := by
  rw [readPort, hvalue]
  dsimp only
  cases hread : Numeral.readNat 10 65535 value.toList with
  | ok n => exact absurd ⟨n, Numeral.readNat_eq_ok_iff.mp hread⟩ h
  | error fault => exact ⟨fault, rfl⟩

theorem readPort_of_none (h : ps.get? "port" = none) : readPort ps = .ok defaultPort := by
  rw [readPort, h]

theorem eq_badPort_of_readPort {e : Error} (h : readPort ps = .error e) :
    ∃ value fault, e = .configuration (.badPort value fault) := by
  rw [readPort] at h
  split at h
  · cases h
  · next value _ =>
    split at h
    · cases h
    · next fault _ => exact ⟨value, fault, (Except.error.inj h).symm⟩

theorem exists_readPort_iff :
    (∃ port, readPort ps = .ok port) ↔
      ∀ value, ps.get? "port" = some value → IsPort value.toList := by
  cases hvalue : ps.get? "port" with
  | none => simp [readPort_of_none hvalue]
  | some value =>
    simp only [Option.some.injEq, forall_eq']
    constructor
    · rintro ⟨port, hport⟩
      by_contra hbad
      obtain ⟨fault, hfault⟩ := readPort_of_no_port hvalue hbad
      rw [hfault] at hport
      cases hport
    · rintro ⟨n, hn, hle⟩
      exact ⟨_, readPort_of_denotes hvalue hn hle⟩

theorem required_eq_ok_iff {value : String} :
    required ps key = .ok value ↔ ps.get? key = some value := by
  rw [required]
  cases ps.get? key <;> simp

theorem required_eq_error_iff {e : Error} :
    required ps key = .error e ↔
      ps.get? key = none ∧ e = .configuration (.missingProperty key) := by
  rw [required]
  cases ps.get? key <;> simp [eq_comm]

def given (p : Parameters) : List String :=
  [p.user, p.password, p.database, p.hostname]

theorem given_ofProperties (ps : Properties) :
    (ofProperties ps).map given = readPort ps >>= fun _ => requiredKeys.mapM (required ps) := by
  rw [ofProperties]
  cases readPort ps with
  | error e => rfl
  | ok port =>
    simp only [requiredKeys, List.mapM_cons, List.mapM_nil]
    cases required ps "user" <;> cases required ps "password" <;>
      cases required ps "database" <;> cases required ps "hostname" <;> rfl

theorem ofProperties_eq_ok_iff :
    ofProperties ps = .ok p ↔ ps.get? "user" = some p.user ∧
      ps.get? "password" = some p.password ∧ ps.get? "database" = some p.database ∧
      ps.get? "hostname" = some p.hostname ∧ readPort ps = .ok p.port ∧
      (ps.get? "driver").getD defaultDriver = p.driver := by
  obtain ⟨user, password, database, hostname, port, driver⟩ := p
  simp only [ofProperties, ← required_eq_ok_iff]
  cases readPort ps <;> cases required ps "user" <;> cases required ps "password" <;>
    cases required ps "database" <;> cases required ps "hostname" <;>
    simp [bind, Except.bind, pure, Except.pure]

theorem get?_eq_none_iff :
    (Properties.ofText text).get? key = none ↔ ∀ value, ¬ Sets text key value := by
  rw [Option.eq_none_iff_forall_ne_some]
  simp only [ne_eq, Properties.get?_eq_some_iff]

/-- The parameters are what the text sets, and where it sets no port or no driver the usual one. -/
structure Given (p : Parameters) (text : String) : Prop where
  user : Sets text "user" p.user
  password : Sets text "password" p.password
  database : Sets text "database" p.database
  hostname : Sets text "hostname" p.hostname
  port : (∃ value, Sets text "port" value ∧ Numeral.Denotes value.toList p.port.toNat) ∨
    (∀ value, ¬ Sets text "port" value) ∧ p.port = defaultPort
  driver : Sets text "driver" p.driver ∨
    (∀ value, ¬ Sets text "driver" value) ∧ p.driver = defaultDriver

theorem readPort_eq_ok_iff {port : UInt16} :
    readPort (Properties.ofText text) = .ok port ↔
      (∃ value, Sets text "port" value ∧ Numeral.Denotes value.toList port.toNat) ∨
        (∀ value, ¬ Sets text "port" value) ∧ port = defaultPort := by
  simp only [← Properties.get?_eq_some_iff]
  cases hvalue : (Properties.ofText text).get? "port" with
  | none => simp [readPort_of_none hvalue, eq_comm]
  | some value =>
    simp only [Option.some.injEq, exists_eq_left', forall_eq', false_and, or_false]
    constructor
    · intro hport
      obtain ⟨n, hn, hle⟩ := exists_readPort_iff.mp ⟨port, hport⟩ value hvalue
      rw [readPort_of_denotes hvalue hn hle, Except.ok.injEq] at hport
      rwa [← hport, UInt16.toNat_ofNat_of_lt' (Nat.lt_succ_of_le hle)]
    · intro h
      have hle : port.toNat ≤ 65535 := Nat.le_of_lt_succ port.toNat_lt
      rw [readPort_of_denotes hvalue h hle, UInt16.ofNat_toNat]

theorem driver_eq_iff {driver : String} :
    ((Properties.ofText text).get? "driver").getD defaultDriver = driver ↔
      Sets text "driver" driver ∨
        (∀ value, ¬ Sets text "driver" value) ∧ driver = defaultDriver := by
  rw [← Properties.get?_eq_some_iff, ← get?_eq_none_iff]
  cases (Properties.ofText text).get? "driver" <;> simp [eq_comm]

theorem ofText_eq_ok_iff : ofText text = .ok p ↔ p.Given text := by
  rw [ofText, ofProperties_eq_ok_iff]
  simp only [Properties.get?_eq_some_iff, readPort_eq_ok_iff, driver_eq_iff]
  constructor
  · rintro ⟨huser, hpassword, hdatabase, hhostname, hport, hdriver⟩
    exact ⟨huser, hpassword, hdatabase, hhostname, hport, hdriver⟩
  · rintro ⟨huser, hpassword, hdatabase, hhostname, hport, hdriver⟩
    exact ⟨huser, hpassword, hdatabase, hhostname, hport, hdriver⟩

def settings (p : Parameters) : List (String × String) :=
  [("user", p.user), ("password", p.password), ("database", p.database),
   ("hostname", p.hostname), ("port", toString p.port.toNat), ("driver", p.driver)]

/-- A text of six lines that set the parameters, in any order, with ignored lines between. -/
def WrittenAs (p : Parameters) (text : String) : Prop :=
  ∃ entries ls, entries.Perm p.settings ∧ Written entries ls ∧ Lined ls text.toList

theorem nodup_keys (p : Parameters) : (p.settings.map Prod.fst).Nodup := by
  show ["user", "password", "database", "hostname", "port", "driver"].Nodup
  decide

theorem WrittenAs.sets (h : p.WrittenAs text) {entry : String × String}
    (hentry : entry ∈ p.settings) : Sets text entry.1 entry.2 := by
  obtain ⟨entries, ls, hperm, hwritten, hlined⟩ := h
  have hentries := entriesOf_of_written hwritten hlined
  rw [← Properties.get?_eq_some_iff]
  apply get?_of_mem_entriesOf
  · rw [hentries, (hperm.map Prod.fst).nodup_iff]
    exact p.nodup_keys
  · rw [hentries, hperm.mem_iff]
    exact hentry

theorem WrittenAs.given (h : p.WrittenAs text) : p.Given text where
  user := h.sets (show ("user", p.user) ∈ p.settings by simp [settings])
  password := h.sets (show ("password", p.password) ∈ p.settings by simp [settings])
  database := h.sets (show ("database", p.database) ∈ p.settings by simp [settings])
  hostname := h.sets (show ("hostname", p.hostname) ∈ p.settings by simp [settings])
  port := by
    have hport : ("port", toString p.port.toNat) ∈ p.settings := by simp [settings]
    refine Or.inl ⟨_, h.sets hport, ?_⟩
    rw [Nat.toString_eq_ofList_toDigits, String.toList_ofList]
    exact Or.inl (Numeral.digits_toDigits _)
  driver := Or.inl (h.sets (show ("driver", p.driver) ∈ p.settings by simp [settings]))

def Fits (value : String) : Prop :=
  Trimmed value.toList ∧ '\n' ∉ value.toList

theorem not_isBlank_of_isDigit {c : Char} (h : c.isDigit = true) : isBlank c = false := by
  obtain ⟨hge, hle⟩ := Char.isDigit_iff_toNat.mp h
  have hzero : '0'.toNat = 48 := rfl
  have hnine : '9'.toNat = 57 := rfl
  simp only [isBlank, blankRanges, List.any_cons, List.any_nil, Bool.or_false, Bool.or_eq_false_iff,
    Bool.and_eq_false_iff, decide_eq_false_iff_not]
  omega

theorem fits_toString (n : Nat) : Fits (toString n) := by
  have hdigits : ∀ c ∈ (toString n).toList, c.isDigit = true := by
    rw [Nat.toString_eq_ofList_toDigits, String.toList_ofList]
    exact (Numeral.digits_toDigits n).isDigit
  refine ⟨⟨fun c hc => ?_, fun c hc => ?_⟩, fun hnewline => ?_⟩
  · exact not_isBlank_of_isDigit (hdigits c (List.mem_of_mem_head? hc))
  · exact not_isBlank_of_isDigit (hdigits c (List.mem_of_mem_getLast? hc))
  · exact absurd (hdigits '\n' hnewline) (by decide)

theorem WrittenAs.fits (h : p.WrittenAs text) : ∀ entry ∈ p.settings, Fits entry.2 := by
  obtain ⟨entries, ls, hperm, hwritten, hlined⟩ := h
  intro entry hentry
  obtain ⟨line, hline, hsetting⟩ := hwritten.setting_of_mem entry (hperm.mem_iff.mpr hentry)
  exact ⟨hsetting.isKey.2, fun hnewline => hlined.notMem line hline (hsetting.mem_line hnewline)⟩

theorem isKey_of_mem {entry : String × String} (h : entry ∈ p.settings) :
    IsKey entry.1 ∧ '\n' ∉ entry.1.toList := by
  have hkeys : ∀ key ∈ ["user", "password", "database", "hostname", "port", "driver"],
      IsKey key ∧ '\n' ∉ key.toList := by
    decide
  exact hkeys entry.1 (List.mem_map_of_mem (f := Prod.fst) h)

theorem exists_writtenAs_iff :
    (∃ text, p.WrittenAs text) ↔
      ∀ value ∈ [p.user, p.password, p.database, p.hostname, p.driver], Fits value := by
  constructor
  · rintro ⟨text, h⟩
    have hfits := h.fits
    simp only [settings, List.forall_mem_cons] at hfits ⊢
    obtain ⟨huser, hpassword, hdatabase, hhostname, -, hdriver, -⟩ := hfits
    exact ⟨huser, hpassword, hdatabase, hhostname, hdriver, by simp⟩
  · intro h
    have hfits : ∀ entry ∈ p.settings, Fits entry.2 := by
      simp only [settings, List.forall_mem_cons] at h ⊢
      obtain ⟨huser, hpassword, hdatabase, hhostname, hdriver, -⟩ := h
      exact ⟨huser, hpassword, hdatabase, hhostname, fits_toString _, hdriver, by simp⟩
    refine ⟨String.ofList ((p.settings.map plainLine).flatMap (· ++ ['\n'])), p.settings,
      p.settings.map plainLine, .refl _, ?_, ?_⟩
    · exact written_plain fun entry hentry => ⟨(isKey_of_mem hentry).1, (hfits entry hentry).1⟩
    · rw [String.toList_ofList]
      apply lined_ended
      intro line hline
      obtain ⟨entry, hentry, rfl⟩ := List.mem_map.mp hline
      simp [plainLine, (isKey_of_mem hentry).2, (hfits entry hentry).2]

theorem ofText_of_no_port {value : String} (hvalue : Sets text "port" value)
    (h : ¬ IsPort value.toList) :
    ∃ fault, ofText text = .error (.configuration (.badPort value fault)) := by
  obtain ⟨fault, hfault⟩ := readPort_of_no_port (Properties.get?_eq_some_iff.mpr hvalue) h
  refine ⟨fault, ?_⟩
  rw [ofText, ← map_eq_error_iff, given_ofProperties, hfault]
  rfl

theorem exists_port_iff :
    (∃ port, readPort (Properties.ofText text) = .ok port) ↔
      ∀ value, Sets text "port" value → IsPort value.toList := by
  simp only [exists_readPort_iff, Properties.get?_eq_some_iff]

theorem exists_required_iff :
    (∃ value, required (Properties.ofText text) key = .ok value) ↔
      ∃ value, Sets text key value := by
  simp only [required_eq_ok_iff, Properties.get?_eq_some_iff]

theorem required_eq_error_iff_missing {e : Error} :
    required (Properties.ofText text) key = .error e ↔
      ∃ missing, ((∀ value, ¬ Sets text key value) ∧ missing = key) ∧
        e = .configuration (.missingProperty missing) := by
  rw [required_eq_error_iff, get?_eq_none_iff]
  simp

theorem exists_ofText_iff :
    (∃ p, ofText text = .ok p) ↔ (∀ key ∈ requiredKeys, ∃ value, Sets text key value) ∧
      ∀ value, Sets text "port" value → IsPort value.toList := by
  have hok : (∃ p, ofText text = .ok p) ↔ ∃ values, (ofText text).map given = .ok values := by
    cases ofText text <;> simp [Except.map]
  rw [hok, ofText, given_ofProperties, ← exists_port_iff]
  simp only [← exists_required_iff, ← exists_mapM_iff]
  cases readPort (Properties.ofText text) <;> simp [bind, Except.bind]

theorem ofText_missing_iff :
    ofText text = .error (.configuration (.missingProperty key)) ↔
      (∀ value, Sets text "port" value → IsPort value.toList) ∧
        FirstFailure (fun k => ∃ value, Sets text k value)
          (fun k missing => (∀ value, ¬ Sets text k value) ∧ missing = k) requiredKeys key := by
  rw [ofText, ← map_eq_error_iff, given_ofProperties, ← exists_port_iff]
  cases hport : readPort (Properties.ofText text) with
  | error e =>
    obtain ⟨value, fault, rfl⟩ := eq_badPort_of_readPort hport
    simp [bind, Except.bind]
  | ok port =>
    have hmapM :
        (Except.ok port >>= fun _ => requiredKeys.mapM (required (Properties.ofText text))) =
          requiredKeys.mapM (required (Properties.ofText text)) := rfl
    rw [hmapM, mapM_eq_error_iff, firstFailure_congr (fun _ => exists_required_iff)
      fun _ _ => required_eq_error_iff_missing, firstFailure_wrapped_iff]
    simp only [Error.configuration.injEq, Misconfiguration.missingProperty.injEq, exists_eq_right',
      Except.ok.injEq, exists_eq', true_and]

/-- Parameters that fit on lines can be written, and from any text in which they are written they
are read. A text gives parameters just if it sets what is required and no port that is no number
of 16 bits. It then gives what it sets, and the usual port and driver where it sets none. A bad
port is reported first, and after that the first of the required keys that is not set. -/
theorem read_as_written :
    (∀ p : Parameters, ((∃ text, p.WrittenAs text) ↔
        ∀ value ∈ [p.user, p.password, p.database, p.hostname, p.driver], Fits value) ∧
      ∀ text, p.WrittenAs text → ofText text = .ok p) ∧
    ∀ text, (∀ p, ofText text = .ok p ↔ p.Given text) ∧
      ((∃ p, ofText text = .ok p) ↔ (∀ key ∈ requiredKeys, ∃ value, Sets text key value) ∧
        ∀ value, Sets text "port" value → IsPort value.toList) ∧
      (∀ value, Sets text "port" value → ¬ IsPort value.toList →
        ∃ fault, ofText text = .error (.configuration (.badPort value fault))) ∧
      ∀ key, ofText text = .error (.configuration (.missingProperty key)) ↔
        (∀ value, Sets text "port" value → IsPort value.toList) ∧
          FirstFailure (fun k => ∃ value, Sets text k value)
            (fun k missing => (∀ value, ¬ Sets text k value) ∧ missing = k) requiredKeys key :=
  ⟨fun _ => ⟨exists_writtenAs_iff, fun _ h => ofText_eq_ok_iff.mpr h.given⟩,
    fun _ => ⟨fun _ => ofText_eq_ok_iff, exists_ofText_iff, fun _ => ofText_of_no_port,
      fun _ => ofText_missing_iff⟩⟩

def marked : Parameters :=
  ⟨"", "p@ss=w#rd : 1!", "hps conditions", "db.example.org", 0, "mock"⟩

def markedText : String :=
  "# settings\r\n\u00a0 port:\t0\r\n\n ! old = yes\nhostname = db.example.org \n" ++
    "driver:mock\r\npassword= p@ss=w#rd : 1!\u3000\r\n\t \nuser=\ndatabase :hps conditions"

def markedLines : List (List Char) :=
  ["# settings".toList, "\u00a0 port:\t0".toList, [], " ! old = yes".toList,
   "hostname = db.example.org ".toList, "driver:mock".toList,
   "password= p@ss=w#rd : 1!\u3000".toList, "\t ".toList, "user=".toList,
   "database :hps conditions".toList]

theorem marked_written : marked.WrittenAs markedText := by
  have hlines : lines markedText.toList = markedLines := by
    decide +kernel
  refine ⟨[("port", "0"), ("hostname", "db.example.org"), ("driver", "mock"),
    ("password", "p@ss=w#rd : 1!"), ("user", ""), ("database", "hps conditions")], markedLines,
    by decide +kernel, ?_, hlines ▸ lined_lines markedText.toList⟩
  refine .ignored (Or.inr ⟨[], '#', " settings".toList, blank_nil, Or.inl rfl, rfl⟩) ?_
  refine .setting (entry?_eq_some_iff.mp (by decide +kernel)) ?_
  refine .ignored (Or.inl blank_nil) ?_
  refine .ignored (Or.inr ⟨[' '], '!', " old = yes".toList, by decide, Or.inr rfl, rfl⟩) ?_
  refine .setting (entry?_eq_some_iff.mp (by decide +kernel)) ?_
  refine .setting (entry?_eq_some_iff.mp (by decide +kernel)) ?_
  refine .setting (entry?_eq_some_iff.mp (by decide +kernel)) ?_
  refine .ignored (Or.inl (by decide)) ?_
  refine .setting (entry?_eq_some_iff.mp (by decide +kernel)) ?_
  exact .setting (entry?_eq_some_iff.mp (by decide +kernel)) .nil

def badPortText : String :=
  "port = 65536\nuser = hps"

theorem marked_read :
    marked.WrittenAs markedText ∧ ofText markedText = .ok marked ∧
      Sets badPortText "port" "65536" ∧ ¬ IsPort "65536".toList ∧
      ∃ fault, ofText badPortText = .error (.configuration (.badPort "65536" fault)) := by
  obtain ⟨hwritten, htext⟩ := read_as_written
  have hport : Sets badPortText "port" "65536" :=
    Properties.get?_eq_some_iff.mp (by decide +kernel)
  have hbad : ¬ IsPort "65536".toList := by
    rintro ⟨n, hn, hle⟩
    have hread := Numeral.readNat_eq_ok_iff.mpr ⟨hn, hle⟩
    rw [show Numeral.readNat 10 65535 "65536".toList = .error .tooLarge by decide +kernel] at hread
    cases hread
  exact ⟨marked_written, (hwritten marked).2 _ marked_written, hport, hbad,
    (htext badPortText).2.2.1 _ hport hbad⟩

end Parameters
end RunConditions
