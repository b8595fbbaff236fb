import Rulebook.Number.Decimal
import Rulebook.Text.Blank
import Rulebook.Time.Calendar

/-!
# Moments of time

A moment is written as a date and a time of day in universal time, with the fewest of 0, 3, 6 or 9
places of a second that are exact. Reading takes any offset from universal time, fields with fewer
digits, and blanks between the fields.
-/

namespace Rulebook

/-- A moment: seconds since the start of 1970, and billionths of a second on top of them. A leap
second is the second billion of the second in front of it. -/
structure Instant where
  seconds : Int
  nanos : Nat
  deriving DecidableEq, Repr

namespace Instant

/-- The seconds of a day. -/
def daySeconds : Int := 86400

/-- The billionths of a second. -/
def secondNanos : Nat := 1000000000

/-- The digits of `n`, with zeros in front up to `width`. -/
def padded (width n : Nat) : List Char :=
  let ds := Nat.toDigits 10 n
  List.replicate (width - ds.length) '0' ++ ds

/-- A year has four digits, and a sign if it is not one of the first ten thousand. -/
def yearChars (year : Int) : List Char :=
  (if year < 0 then ['-'] else if 9999 < year then ['+'] else []) ++ padded 4 year.natAbs

/-- The places of a second. -/
def fractionChars (nanos : Nat) : List Char :=
  if nanos = 0 then []
  else if nanos % 1000000 = 0 then '.' :: padded 3 (nanos / 1000000)
  else if nanos % 1000 = 0 then '.' :: padded 6 (nanos / 1000)
  else '.' :: padded 9 nanos

/-- The text of a moment. -/
def text (t : Instant) : String :=
  let date := Date.ofDayNumber (t.seconds / daySeconds)
  let ofDay := (t.seconds % daySeconds).toNat
  String.ofList <|
    yearChars date.year ++ '-' :: padded 2 date.month ++ '-' :: padded 2 date.day ++ 'T' ::
    padded 2 (ofDay / 3600) ++ ':' :: padded 2 (ofDay / 60 % 60) ++ ':' ::
    padded 2 (ofDay % 60 + t.nanos / secondNanos) ++ fractionChars (t.nanos % secondNanos) ++ ['Z']

open Text

/-- A number of at least one and at most `most` digits, behind blanks. -/
def field? (most : Nat) (cs : List Char) : Option (Nat × List Char) :=
  let cs := trimStart cs
  let ds := (cs.take most).takeWhile isAsciiDigit
  if ds.isEmpty then none else some (Numeral.natValue ds, cs.drop ds.length)

/-- A year: up to four digits, or any number of them behind a sign. -/
def year? (cs : List Char) : Option (Int × List Char) :=
  match trimStart cs with
  | '-' :: ds =>
    if ds.head?.any isAsciiDigit then (field? ds.length ds).map fun (n, rest) => (-(n : Int), rest)
    else none
  | '+' :: ds =>
    if ds.head?.any isAsciiDigit then (field? ds.length ds).map fun (n, rest) => ((n : Int), rest)
    else none
  | cs => (field? 4 cs).map fun (n, rest) => ((n : Int), rest)

/-- What follows `c`, behind blanks. -/
def behind? (c : Char) (cs : List Char) : Option (List Char) :=
  match trimStart cs with
  | d :: rest => if c = d then some rest else none
  | [] => none

/-- The greatest and the least year that are read. -/
def inYears (year : Int) : Bool := -262143 ≤ year && year ≤ 262142

/-- A date. -/
def date? (cs : List Char) : Option (Date × List Char) := do
  let (year, cs) ← year? cs
  let (month, cs) ← field? 2 (← behind? '-' cs)
  let (day, cs) ← field? 2 (← behind? '-' cs)
  let date : Date := ⟨year, month, day⟩
  if date.isValid && inYears year then pure (date, cs) else none

/-- The places of a second behind a point, if there is one; of more than nine the rest is cut. -/
def fraction? : List Char → Option (Nat × List Char)
  | '.' :: cs =>
    let ds := cs.takeWhile isAsciiDigit
    if ds.isEmpty then none
    else some (Numeral.natValue (ds.take 9) * Nat.pow 10 (9 - min 9 ds.length),
      cs.dropWhile isAsciiDigit)
  | cs => some (0, cs)

/-- A time of day, as seconds and billionths; the sixtieth second of a minute is a leap second. -/
def timeOfDay? (cs : List Char) : Option (Nat × Nat × List Char) := do
  let (hour, cs) ← field? 2 cs
  let (minute, cs) ← field? 2 (← behind? ':' cs)
  let (second, cs) ← field? 2 (← behind? ':' cs)
  let (nanos, cs) ← fraction? cs
  if 23 < hour ∨ 59 < minute ∨ 60 < second then none
  else if second = 60 then pure (hour * 3600 + minute * 60 + 59, secondNanos + nanos, cs)
  else pure (hour * 3600 + minute * 60 + second, nanos, cs)

/-- Two digits, of which the first is at most `most`. -/
def pair? (most : Char) : List Char → Option (Nat × List Char)
  | a :: b :: rest =>
    if isAsciiDigit a ∧ isAsciiDigit b ∧ a ≤ most then some (Numeral.natValue [a, b], rest)
    else none
  | _ => none

/-- An offset from universal time in hours and minutes, as seconds. -/
def hoursAndMinutes? (negative : Bool) (cs : List Char) : Option (Int × List Char) := do
  let (hours, cs) ← pair? '9' cs
  let (minutes, cs) ← pair? '5' (cs.dropWhile fun c => c = ':' || isBlank c)
  let seconds : Int := (hours * 3600 + minutes * 60 : Nat)
  if seconds < daySeconds then pure (if negative then -seconds else seconds, cs) else none

/-- An offset from universal time: a name of universal time, or a sign with hours and minutes. -/
def offset? (cs : List Char) : Option (Int × List Char) :=
  if (cs.take 3).map Char.toLower = ['u', 't', 'c'] then some (0, cs.drop 3)
  else match cs with
    | 'Z' :: rest => some (0, rest)
    | 'z' :: rest => some (0, rest)
    | '+' :: rest => hoursAndMinutes? false rest
    | '-' :: rest => hoursAndMinutes? true rest
    | '−' :: rest => hoursAndMinutes? true rest
    | _ => none

/-- The moment that a text denotes. -/
def read? (cs : List Char) : Option Instant := do
  let (date, cs) ← date? cs
  let cs ← match cs with
    | c :: rest => if c = 'T' ∨ c = 't' ∨ c = ' ' then some rest else none
    | [] => none
  let (ofDay, nanos, cs) ← timeOfDay? cs
  let (offset, cs) ← offset? (trimStart cs)
  let seconds := date.dayNumber * daySeconds + ofDay - offset
  if (trimStart cs).isEmpty && inYears (Date.ofDayNumber (seconds / daySeconds)).year then
    pure ⟨seconds, nanos⟩
  else none

end Instant

end Rulebook
