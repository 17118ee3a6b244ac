import Mathlib.Tactic.IntervalCases
import Mathlib.Tactic.Ring
import RunConditions.Timestamp

/-!
# The calendar

The day number of a date counts whole years, whole months and days from the
first of January 2000 on, and backwards before it. Every day number belongs to
one date only, which is the civil date of that day, and every count of
microseconds to one date and time of day.
-/

set_option autoImplicit false

namespace RunConditions.Timestamp

def Leap (year : Int) : Prop :=
  year % 4 = 0 ∧ (year % 100 ≠ 0 ∨ year % 400 = 0)

instance (year : Int) : Decidable (Leap year) :=
  inferInstanceAs (Decidable (_ ∧ _))

def leapDays (year : Int) : Nat :=
  if Leap year then 1 else 0

def monthLength (year : Int) : Nat → Nat
  | 2 => 28 + leapDays year
  | 4 | 6 | 9 | 11 => 30
  | _ => 31

structure IsDate (year : Int) (month day : Nat) : Prop where
  month_pos : 1 ≤ month
  month_le : month ≤ 12
  day_pos : 1 ≤ day
  day_le : day ≤ monthLength year month

def monthStart (year : Int) (month : Nat) : Nat :=
  ((List.range' 1 (month - 1)).map (monthLength year)).sum

def leapYears (year : Int) : Int :=
  (year - 1) / 4 - (year - 1) / 100 + (year - 1) / 400

def yearStart (year : Int) : Int :=
  365 * (year - 2000) + (leapYears year - leapYears 2000)

def dayNumber (year : Int) (month day : Nat) : Int :=
  yearStart year + monthStart year month + (day - 1)

example : dayNumber 2000 1 1 = 0 := by decide

section Counting

variable {year year' : Int} {month month' day day' : Nat}

theorem leapDays_le (year : Int) : leapDays year ≤ 1 := by
  unfold leapDays
  split <;> simp

theorem leapYears_succ (year : Int) : leapYears (year + 1) = leapYears year + leapDays year := by
  by_cases h : Leap year
  · rw [leapDays, if_pos h]
    unfold Leap at h
    unfold leapYears
    omega
  · rw [leapDays, if_neg h]
    unfold Leap at h
    unfold leapYears
    omega

theorem monthStart_succ (h : 1 ≤ month) :
    monthStart year (month + 1) = monthStart year month + monthLength year month := by
  obtain ⟨k, rfl⟩ := Nat.exists_eq_add_of_le' h
  simp [monthStart, List.range'_1_concat, Nat.add_comm]

theorem monthStart_thirteen (year : Int) : monthStart year 13 = 365 + leapDays year := by
  simp only [monthStart, monthLength, List.range', List.map_cons, List.map_nil, List.sum_cons,
    List.sum_nil]
  omega

theorem yearStart_succ (year : Int) :
    yearStart (year + 1) = yearStart year + monthStart year 13 := by
  rw [yearStart, yearStart, leapYears_succ, monthStart_thirteen]
  push_cast
  ring

theorem monthEnd_le (h : 1 ≤ month) (hlt : month < month') :
    monthStart year month + monthLength year month ≤ monthStart year month' := by
  rw [← monthStart_succ h]
  induction hlt with
  | refl => rfl
  | step hk ih =>
    rw [monthStart_succ (h.trans (Nat.le_of_succ_le hk))]
    exact Nat.le_add_right_of_le ih

theorem yearEnd_le (hlt : year < year') :
    yearStart year + monthStart year 13 ≤ yearStart year' := by
  rw [← yearStart_succ]
  unfold yearStart leapYears
  omega

theorem IsDate.in_year (h : IsDate year month day) :
    yearStart year ≤ dayNumber year month day ∧
      dayNumber year month day < yearStart year + monthStart year 13 := by
  have hend : monthStart year month + monthLength year month ≤ monthStart year 13 :=
    monthEnd_le h.month_pos (Nat.lt_succ_of_le h.month_le)
  have hpos := h.day_pos
  have hle := h.day_le
  unfold dayNumber
  omega

theorem IsDate.unique (h : IsDate year month day) (h' : IsDate year' month' day')
    (hn : dayNumber year month day = dayNumber year' month' day') :
    year = year' ∧ month = month' ∧ day = day' := by
  have hyear : year = year' := by
    have hin := h.in_year
    have hin' := h'.in_year
    rcases lt_trichotomy year year' with hlt | heq | hgt
    · have hend := yearEnd_le hlt
      omega
    · exact heq
    · have hend := yearEnd_le hgt
      omega
  subst hyear
  have hday := h.day_le
  have hday' := h'.day_le
  have hpos := h.day_pos
  have hpos' := h'.day_pos
  unfold dayNumber at hn
  rcases lt_trichotomy month month' with hlt | rfl | hgt
  · have hend : monthStart year month + monthLength year month ≤ monthStart year month' :=
      monthEnd_le h.month_pos hlt
    omega
  · exact ⟨rfl, rfl, by omega⟩
  · have hend : monthStart year month' + monthLength year month' ≤ monthStart year month :=
      monthEnd_le h'.month_pos hgt
    omega

end Counting

/-- The days from the first of March of year 0 to the first of March of that
year. Years that begin in March end with their leap day, so that their months
are as long in every year but for the last one. -/
def marchStart (year : Int) : Int :=
  365 * year + year / 4 - year / 100 + year / 400

theorem yearStart_eq (year : Int) : yearStart year = marchStart (year - 1) + 306 - epoch := by
  unfold yearStart marchStart leapYears epoch
  omega

theorem marchStart_succ (year : Int) :
    marchStart (year + 1) = marchStart year + 365 + leapDays (year + 1) := by
  have h₁ := yearStart_succ (year + 1)
  rw [yearStart_eq, yearStart_eq, monthStart_thirteen] at h₁
  simp only [add_sub_cancel_right] at h₁
  push_cast at h₁
  omega

def yearOfEra (day : Nat) : Nat :=
  (day - day / 1460 + day / 36524 - day / 146096) / 365

section YearOfEra

variable {day : Nat}

theorem yearOfEra_lt (h : day < 146097) : yearOfEra day < 400 := by
  unfold yearOfEra
  omega

theorem yearOfEra_bounds (h : day < 146096) :
    365 * yearOfEra day ≤ day - day / 1460 + day / 36524 ∧
      day - day / 1460 + day / 36524 < 365 * (yearOfEra day + 1) := by
  have hlast : day / 146096 = 0 := Nat.div_eq_of_lt h
  unfold yearOfEra
  omega

theorem yearOfEra_quarter (h : day < 146096) :
    yearOfEra day / 4 ≤ day / 1460 ∧ day / 1460 ≤ (yearOfEra day + 1) / 4 := by
  have hbounds := yearOfEra_bounds h
  omega

theorem yearOfEra_century (h : day < 146096) : yearOfEra day / 100 = day / 36524 := by
  have hbounds := yearOfEra_bounds h
  have hcentury : day / 36524 < 4 := by omega
  generalize hc : day / 36524 = century at *
  interval_cases century <;> omega

theorem marchStart_yearOfEra_le (h : day < 146097) : marchStart (yearOfEra day) ≤ day := by
  have hyear := yearOfEra_lt h
  rcases Nat.lt_succ_iff_lt_or_eq.mp h with h | rfl
  · have hbounds := yearOfEra_bounds h
    have hquarter := yearOfEra_quarter h
    have hcentury := yearOfEra_century h
    unfold marchStart
    omega
  · -- The last day of the 400 years is the leap day that only they have.
    decide

theorem lt_marchStart_yearOfEra (h : day < 146097) :
    day < marchStart (yearOfEra day + 1 : Nat) := by
  rcases Nat.lt_succ_iff_lt_or_eq.mp h with h | rfl
  · have hbounds := yearOfEra_bounds h
    have hquarter := yearOfEra_quarter h
    have hcentury := yearOfEra_century h
    unfold marchStart
    -- The last year of a century ends with the century, the others with their four years.
    by_cases hend : yearOfEra day + 1 = 100 * (day / 36524 + 1)
    · omega
    · have hnext : (yearOfEra day + 1) / 100 = day / 36524 := by omega
      omega
  · decide

end YearOfEra

def marchYear (days : Int) : Int :=
  yearOfEra (days.fmod 146097).toNat + days.fdiv 146097 * 400

def marchDay (days : Int) : Nat :=
  let day := (days.fmod 146097).toNat
  day - (365 * yearOfEra day + yearOfEra day / 4 - yearOfEra day / 100)

def marchDate (year : Int) (day : Nat) : Int × Nat × Nat :=
  let marchMonth := (5 * day + 2) / 153
  let month := if marchMonth < 10 then marchMonth + 3 else marchMonth - 9
  (year + (if month ≤ 2 then 1 else 0), month, day - (153 * marchMonth + 2) / 5 + 1)

theorem civil_eq (days : Int) : civil days = marchDate (marchYear days) (marchDay days) :=
  rfl

theorem marchStart_era (year era : Int) :
    marchStart (year + era * 400) = marchStart year + 146097 * era := by
  unfold marchStart
  omega

theorem marchStart_of_lt {year : Nat} (h : year < 400) :
    marchStart year = (365 * year + year / 4 - year / 100 : Nat) := by
  unfold marchStart
  omega

theorem march_spec (days : Int) :
    marchStart (marchYear days) + marchDay days = days ∧
      days < marchStart (marchYear days + 1) := by
  have hpos : 0 ≤ days.fmod 146097 := Int.fmod_nonneg_of_pos days (by decide)
  have hlt : days.fmod 146097 < 146097 := Int.fmod_lt_of_pos days (by decide)
  have hdays : 146097 * days.fdiv 146097 + days.fmod 146097 = days := Int.mul_fdiv_add_fmod ..
  obtain ⟨day, hday⟩ := Int.eq_ofNat_of_zero_le hpos
  rw [hday] at hdays hlt
  have hle := marchStart_yearOfEra_le (Int.ofNat_lt.mp hlt)
  have hnext := lt_marchStart_yearOfEra (Int.ofNat_lt.mp hlt)
  have hstart := marchStart_of_lt (yearOfEra_lt (Int.ofNat_lt.mp hlt))
  simp only [marchYear, marchDay, hday, Int.toNat_natCast]
  push_cast at hnext
  rw [add_right_comm, marchStart_era, marchStart_era]
  omega

theorem marchDay_lt (days : Int) : marchDay days < 365 + leapDays (marchYear days + 1) := by
  have h := march_spec days
  rw [marchStart_succ] at h
  omega

section MarchDate

variable {year : Int} {day : Nat}

theorem marchMonth_le (h : day < 365 + leapDays (year + 1)) : (5 * day + 2) / 153 ≤ 11 := by
  have hleap := leapDays_le (year + 1)
  omega

theorem marchDate_isDate (h : day < 365 + leapDays (year + 1)) :
    IsDate (marchDate year day).1 (marchDate year day).2.1 (marchDate year day).2.2 := by
  have hmonth := marchMonth_le h
  generalize hm : (5 * day + 2) / 153 = marchMonth at hmonth
  simp only [marchDate, hm]
  interval_cases marchMonth
  all_goals
    refine ⟨by decide, by decide, Nat.succ_pos _, ?_⟩
    simp only [Nat.reduceLT, Nat.reduceLeDiff, Nat.reduceAdd, Nat.reduceSub, ↓reduceIte, le_refl,
      monthLength]
    omega

theorem dayNumber_marchDate (h : day < 365 + leapDays (year + 1)) :
    dayNumber (marchDate year day).1 (marchDate year day).2.1 (marchDate year day).2.2 =
      marchStart year + day - epoch := by
  have hmonth := marchMonth_le h
  have hyear := marchStart_succ (year - 1)
  rw [sub_add_cancel] at hyear
  generalize hm : (5 * day + 2) / 153 = marchMonth at hmonth
  simp only [dayNumber, yearStart_eq, marchDate, hm]
  interval_cases marchMonth
  all_goals
    simp only [Nat.reduceLT, Nat.reduceLeDiff, Nat.reduceAdd, Nat.reduceSub, ↓reduceIte, le_refl,
      Nat.one_le_ofNat, add_zero, add_sub_cancel_right, monthStart, monthLength, List.range',
      List.map_cons, List.map_nil, List.sum_cons, List.sum_nil]
    omega

end MarchDate

theorem civil_isDate (days : Int) :
    IsDate (civil days).1 (civil days).2.1 (civil days).2.2 :=
  marchDate_isDate (marchDay_lt days)

theorem dayNumber_civil (days : Int) :
    dayNumber (civil days).1 (civil days).2.1 (civil days).2.2 = days - epoch := by
  rw [civil_eq, dayNumber_marchDate (marchDay_lt days), (march_spec days).1]

structure Valid (t : Timestamp) : Prop where
  date : IsDate t.year t.month t.day
  hour_lt : t.hour < 24
  minute_lt : t.minute < 60
  second_lt : t.second < 60
  nanosecond_lt : t.nanosecond < 1000000000

/-- The nanoseconds from the start of the year 2000 to that time. -/
def elapsed (t : Timestamp) : Int :=
  (((dayNumber t.year t.month t.day * 24 + t.hour) * 60 + t.minute) * 60 + t.second) *
    1000000000 + t.nanosecond

theorem Valid.unique {t u : Timestamp} (ht : t.Valid) (hu : u.Valid)
    (h : t.elapsed = u.elapsed) : t = u := by
  obtain ⟨hdate, hhour, hminute, hsecond, hnano⟩ := ht
  obtain ⟨hdate', hhour', hminute', hsecond', hnano'⟩ := hu
  unfold elapsed at h
  obtain ⟨hyear, hmonth, hday⟩ := hdate.unique hdate' (by omega)
  cases t
  cases u
  simp only [Timestamp.mk.injEq] at *
  subst hyear hmonth hday
  refine ⟨rfl, rfl, rfl, ?_, ?_, ?_, ?_⟩ <;> omega

theorem ofMicroseconds_valid (n : Int) : (ofMicroseconds n).Valid := by
  have hpos : 0 ≤ n.fmod 86400000000 := Int.fmod_nonneg_of_pos n (by decide)
  have hlt : n.fmod 86400000000 < 86400000000 := Int.fmod_lt_of_pos n (by decide)
  refine ⟨civil_isDate _, ?_, ?_, ?_, ?_⟩ <;> simp only [ofMicroseconds] <;> omega

theorem elapsed_ofMicroseconds (n : Int) : (ofMicroseconds n).elapsed = 1000 * n := by
  have hpos : 0 ≤ n.fmod 86400000000 := Int.fmod_nonneg_of_pos n (by decide)
  have hn : 86400000000 * n.fdiv 86400000000 + n.fmod 86400000000 = n := Int.mul_fdiv_add_fmod ..
  have hday := dayNumber_civil (epoch + n.fdiv 86400000000)
  simp only [elapsed, ofMicroseconds, hday]
  omega

theorem ofMicroseconds_eq_iff {n : Int} {t : Timestamp} :
    ofMicroseconds n = t ↔ t.Valid ∧ t.elapsed = 1000 * n := by
  constructor
  · rintro rfl
    exact ⟨ofMicroseconds_valid n, elapsed_ofMicroseconds n⟩
  · rintro ⟨ht, hn⟩
    exact (ofMicroseconds_valid n).unique ht ((elapsed_ofMicroseconds n).trans hn.symm)

example : ofMicroseconds (-1) = ⟨1999, 12, 31, 23, 59, 59, 999999000⟩ := by
  decide

def midnight (year : Int) (month day : Nat) : Timestamp :=
  { year, month, day, hour := 0, minute := 0, second := 0, nanosecond := 0 }

theorem ofDays_dayNumber {year : Int} {month day : Nat} (h : IsDate year month day) :
    ofDays (dayNumber year month day) = midnight year month day := by
  rw [ofDays, ofMicroseconds_eq_iff]
  refine ⟨⟨h, Nat.succ_pos _, Nat.succ_pos _, Nat.succ_pos _, Nat.succ_pos _⟩, ?_⟩
  simp only [elapsed, midnight]
  omega

theorem exists_dayNumber (n : Int) :
    ∃ year month day, IsDate year month day ∧ dayNumber year month day = n := by
  refine ⟨_, _, _, civil_isDate (epoch + n), ?_⟩
  rw [dayNumber_civil, add_sub_cancel_left]

end RunConditions.Timestamp
