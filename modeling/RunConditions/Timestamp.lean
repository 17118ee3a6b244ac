/-!
# Timestamps

A timestamp is a civil date and a time of day in the Gregorian calendar
extended to all years. Servers count days or microseconds from the first of
January 2000.
-/

set_option autoImplicit false

namespace RunConditions

structure Timestamp where
  year : Int
  month : Nat
  day : Nat
  hour : Nat
  minute : Nat
  second : Nat
  nanosecond : Nat
  deriving DecidableEq, Repr

namespace Timestamp

/-- The civil date that many days after the first of March of year 0. Years
begin in March here, so that the leap day ends one. -/
def civil (days : Int) : Int × Nat × Nat :=
  let era := days.fdiv 146097
  let dayOfEra := (days.fmod 146097).toNat
  let yearOfEra := (dayOfEra - dayOfEra / 1460 + dayOfEra / 36524 - dayOfEra / 146096) / 365
  let dayOfYear := dayOfEra - (365 * yearOfEra + yearOfEra / 4 - yearOfEra / 100)
  let marchMonth := (5 * dayOfYear + 2) / 153
  let day := dayOfYear - (153 * marchMonth + 2) / 5 + 1
  let month := if marchMonth < 10 then marchMonth + 3 else marchMonth - 9
  (yearOfEra + era * 400 + (if month ≤ 2 then 1 else 0), month, day)

/-- Days from the first of March of year 0 to the first of January 2000. -/
def epoch : Int := 730425

def ofMicroseconds (n : Int) : Timestamp :=
  let (year, month, day) := civil (epoch + n.fdiv 86400000000)
  let rest := (n.fmod 86400000000).toNat
  { year, month, day
    hour := rest / 3600000000
    minute := rest / 60000000 % 60
    second := rest / 1000000 % 60
    nanosecond := rest % 1000000 * 1000 }

def ofDays (n : Int) : Timestamp :=
  ofMicroseconds (n * 86400000000)

def padded (width n : Nat) : String :=
  let digits := Nat.toDigits 10 n
  String.ofList (List.replicate (width - digits.length) '0' ++ digits)

/-- Four digits, or a sign and at least four digits outside the years 0 to 9999. -/
def yearText (year : Int) : String :=
  if 0 ≤ year then (if year ≤ 9999 then "" else "+") ++ padded 4 year.toNat
  else "-" ++ padded 4 (-year).toNat

def date (t : Timestamp) : String :=
  yearText t.year ++ "-" ++ padded 2 t.month ++ "-" ++ padded 2 t.day

def clock (t : Timestamp) : String :=
  padded 2 t.hour ++ ":" ++ padded 2 t.minute ++ ":" ++ padded 2 t.second

/-- Three, six or nine digits after the point, whichever is exact first, and
nothing for a whole second. -/
def fraction (t : Timestamp) : String :=
  if t.nanosecond = 0 then ""
  else if t.nanosecond % 1000000 = 0 then "." ++ padded 3 (t.nanosecond / 1000000)
  else if t.nanosecond % 1000 = 0 then "." ++ padded 6 (t.nanosecond / 1000)
  else "." ++ padded 9 t.nanosecond

def display (t : Timestamp) : String :=
  t.date ++ " " ++ t.clock

def exact (t : Timestamp) : String :=
  t.date ++ "T" ++ t.clock ++ t.fraction

end Timestamp
end RunConditions
