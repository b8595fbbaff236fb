/-!
# The Gregorian calendar

Dates are counted in days from the first of January 1970, backwards and forwards without end. The
count starts its years in March, so that the leap day comes last in its year and the days in front
of a month follow one formula.
-/

namespace Rulebook

/-- A day of a year. -/
structure Date where
  year : Int
  month : Nat
  day : Nat
  deriving DecidableEq, Repr

namespace Date

/-- A year with a 29th of February. -/
def isLeap (year : Int) : Bool := year % 4 = 0 && (year % 100 ≠ 0 || year % 400 = 0)

/-- The number of days of a month. -/
def monthLength (year : Int) (month : Nat) : Nat :=
  if month = 2 then if isLeap year then 29 else 28
  else if month = 4 ∨ month = 6 ∨ month = 9 ∨ month = 11 then 30
  else 31

/-- A date that the calendar has. -/
def isValid (d : Date) : Bool :=
  1 ≤ d.month && d.month ≤ 12 && 1 ≤ d.day && d.day ≤ monthLength d.year d.month

/-- The days from the first of March of the year 0 to the first of January 1970. -/
def epoch : Int := 719468

/-- The days of four hundred years, after which the calendar repeats. -/
def cycle : Int := 146097

/-- The days from the first of January 1970 to a date. -/
def dayNumber (d : Date) : Int :=
  let year := if d.month ≤ 2 then d.year - 1 else d.year
  let inCycle := year % 400
  let inYear : Int := ((153 * ((d.month + 9) % 12) + 2) / 5 + d.day - 1 : Nat)
  year / 400 * cycle + (inCycle * 365 + inCycle / 4 - inCycle / 100 + inYear) - epoch

/-- The date a number of days after the first of January 1970. -/
def ofDayNumber (n : Int) : Date :=
  let inCycle := (n + epoch) % cycle
  let year := (inCycle - inCycle / 1460 + inCycle / 36524 - inCycle / 146096) / 365
  let inYear := (inCycle - (365 * year + year / 4 - year / 100)).toNat
  let march := (5 * inYear + 2) / 153
  let month := if march < 10 then march + 3 else march - 9
  ⟨year + (n + epoch) / cycle * 400 + (if month ≤ 2 then 1 else 0), month,
    inYear - (153 * march + 2) / 5 + 1⟩

end Date

end Rulebook
