import Rulebook.Text.Digit
import Rulebook.Time.Calendar

/-!
# Dates and times of a TOML document

A date, a time of day, or both and an offset from universal time. They become texts: with a `T`
between date and time, `Z` for no offset, and a fraction of a second of at most nine places without
zeros at its end.
-/

namespace Rulebook.Toml

open Text

/-- The number of two digits, and what follows them. -/
def pair? : List Char → Option (Nat × List Char)
  | a :: b :: cs =>
    if isAsciiDigit a && isAsciiDigit b then some (10 * digitValue a + digitValue b, cs) else none
  | _ => none

/-- The number of two digits behind a separator, and what follows them. -/
def pairAfter? (separator : Char) : List Char → Option (Nat × List Char)
  | c :: cs => if c = separator then pair? cs else none
  | [] => none

/-- What follows a date of ten characters. -/
def afterDate? (cs : List Char) : Option (List Char) := do
  let (century, rest) ← pair? cs
  let (year, rest) ← pair? rest
  let (month, rest) ← pairAfter? '-' rest
  let (day, rest) ← pairAfter? '-' rest
  if (⟨100 * century + year, month, day⟩ : Date).isValid then pure rest else none

/-- The places of a second that are kept of a fraction. -/
def fractionPlaces (ds : List Char) : List Char :=
  match ((ds.take 9).reverse.dropWhile (· = '0')).reverse with
  | [] => ['0']
  | places => places

/-- The text of the seconds of a time of day, which may be absent, and what follows them. -/
def seconds? : List Char → Option (List Char × List Char)
  | ':' :: cs => do
    let (second, rest) ← pair? cs
    if 60 < second then none
    else match rest with
      | '.' :: rest =>
        let ds := rest.takeWhile isAsciiDigit
        if ds.isEmpty then none
        else pure (':' :: cs.take 2 ++ '.' :: fractionPlaces ds, rest.drop ds.length)
      | rest => pure (':' :: cs.take 2, rest)
  | cs => some ([], cs)

/-- The text of a time of day, and what follows it. -/
def time? (cs : List Char) : Option (List Char × List Char) := do
  let (hour, rest) ← pair? cs
  let (minute, rest) ← pairAfter? ':' rest
  if 23 < hour || 59 < minute then none
  else (seconds? rest).map fun (seconds, rest) => (cs.take 5 ++ seconds, rest)

/-- The text of an offset, if a text is one or nothing. -/
def offset? : List Char → Option (List Char)
  | [] => some []
  | c :: cs =>
    if c = 'Z' || c = 'z' then if cs.isEmpty then some ['Z'] else none
    else if c = '+' || c = '-' then do
      let (hour, rest) ← pair? cs
      let (minute, rest) ← pairAfter? ':' rest
      if 23 < hour || 59 < minute || !rest.isEmpty then none
      else pure ((if hour = 0 && minute = 0 then '+' else c) :: cs)
    else none

/-- The text of a date, of a time of day, or of both. -/
def moment? (cs : List Char) : Option (List Char) :=
  match afterDate? cs with
  | some [] => some cs
  | some (c :: rest) =>
    if c = 'T' || c = 't' || c = ' ' then do
      let (time, rest) ← time? rest
      pure (cs.take 10 ++ 'T' :: time ++ (← offset? rest))
    else none
  | none =>
    match time? cs with
    | some (time, []) => some time
    | _ => none

end Rulebook.Toml
