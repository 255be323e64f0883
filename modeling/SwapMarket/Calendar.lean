/-!
# The calendar

A time is a number of seconds since the start of the year 1970, without leap seconds.
**`Calendar.text`** writes it as a date and a time of day of the Gregorian calendar, which is
extended to all years.

Days are counted in cycles of four hundred years, which all have the same number of days. A year
is taken to start in March, so that its leap day is its last day (**`Calendar.ofDays`**).
-/

namespace SwapMarket.Calendar

/-- A day of the Gregorian calendar. -/
structure Date where
  /-- The year; the one before the first is zero. -/
  year : Int
  /-- The month, from one on. -/
  month : Nat
  /-- The day of the month, from one on. -/
  day : Nat
  deriving DecidableEq, Repr

/-- The seconds of a day. -/
def daySeconds : Int := 86400

/-- The days of four hundred years. -/
def cycleDays : Int := 146097

/-- The days from the first of March of the year zero to the start of 1970. -/
def startDays : Int := 719468

/-- The year of a cycle in which the day `n` of the cycle lies. -/
def yearOfCycle (n : Nat) : Nat := (n - n / 1460 + n / 36524 - n / 146096) / 365

/-- The first day of a year of a cycle. -/
def firstDay (year : Nat) : Nat := 365 * year + year / 4 - year / 100

/-- The day of the year on which the month starts that comes so many months after March. -/
def monthStart (m : Nat) : Nat := (153 * m + 2) / 5

/-- The date of a day, counted from the start of 1970. -/
def ofDays (days : Int) : Date :=
  let shifted := days + startDays
  let cycle := shifted.fdiv cycleDays
  let n := (shifted.fmod cycleDays).toNat
  let year := yearOfCycle n
  let inYear := n - firstDay year
  let m := (5 * inYear + 2) / 153
  let isEarly := 10 ≤ m
  { year := year + cycle * 400 + (if isEarly then 1 else 0)
    month := if isEarly then m - 9 else m + 3
    day := inYear - monthStart m + 1 }

/-- A number with at least so many digits. -/
def digits (width n : Nat) : String :=
  let t := toString n
  .ofList (List.replicate (width - t.length) '0') ++ t

/-- A year; one that does not have four digits has a sign. -/
def yearText (y : Int) : String :=
  (if y < 0 then "-" else if 9999 < y then "+" else "") ++ digits 4 y.natAbs

/-- A time as a text. -/
def text (t : Int) : String :=
  let d := ofDays (t.fdiv daySeconds)
  let s := (t.fmod daySeconds).toNat
  yearText d.year ++ "-" ++ digits 2 d.month ++ "-" ++ digits 2 d.day ++ "T"
    ++ digits 2 (s / 3600) ++ ":" ++ digits 2 (s / 60 % 60) ++ ":" ++ digits 2 (s % 60) ++ "Z"

end SwapMarket.Calendar
