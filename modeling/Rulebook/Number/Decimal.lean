import Rulebook.Number.Double
import Rulebook.Text.Digit

/-!
# Decimal numerals

A decimal is an integer times a power of ten, and a numeral its text. `Decimal.toDouble` rounds to
nearest; `Double.read?` reads every numeral with an optional sign, fraction and exponent, and the
names of the values that are no numerals.
-/

namespace Rulebook

/-- The number `digits * 10^exponent`, negated if `negative`. -/
structure Decimal where
  negative : Bool
  digits : Nat
  exponent : Int
  deriving DecidableEq

/-- The double nearest to a decimal. Above `10^309` that is an infinity and below `10^-330` a zero,
which the first cases say without computing the power. -/
def Decimal.toDouble (d : Decimal) : Double :=
  if d.digits = 0 then Double.ofRatio d.negative 0 1
  else if 309 < d.exponent then .infinite d.negative
  else if d.digits.log2 + 1 + d.exponent < -330 then Double.ofRatio d.negative 0 1
  else Double.ofRatio d.negative (d.digits * Nat.pow 10 d.exponent.toNat * unitsPerOne)
    (Nat.pow 10 (-d.exponent).toNat)

namespace Numeral

open Text

/-- The value of a row of ASCII digits. -/
def natValue (ds : List Char) : Nat := ds.foldl (fun n c => 10 * n + digitValue c) 0

/-- The value of a text that is ASCII digits and nothing else. -/
def natural? (cs : List Char) : Option Nat :=
  if cs ≠ [] ∧ cs.all isAsciiDigit then some (natValue cs) else none

/-- The value of a row of ASCII digits that may have a plus in front. -/
def unsigned? : List Char → Option Nat
  | '+' :: cs => natural? cs
  | cs => natural? cs

/-- Splits off a sign; `true` stands for a minus. -/
def sign : List Char → Bool × List Char
  | '-' :: cs => (true, cs)
  | '+' :: cs => (false, cs)
  | cs => (false, cs)

/-- The value of an exponent part, which is empty or a letter `e` with a signed integer. -/
def exponent? : List Char → Option Int
  | [] => some 0
  | e :: cs =>
    let (negative, ds) := sign cs
    if e = 'e' ∨ e = 'E' then
      (natural? ds).map fun n => if negative then -(n : Int) else n
    else none

/-- Splits off a fraction part: the digits after a point, if there is one. -/
def fraction : List Char → List Char × List Char
  | '.' :: cs => (cs.takeWhile isAsciiDigit, cs.dropWhile isAsciiDigit)
  | cs => ([], cs)

/-- The decimal that an unsigned numeral denotes: digits on at least one side of the point. -/
def decimal? (negative : Bool) (cs : List Char) : Option Decimal :=
  let whole := cs.takeWhile isAsciiDigit
  let (frac, rest) := fraction (cs.dropWhile isAsciiDigit)
  if whole = [] ∧ frac = [] then none
  else (exponent? rest).map fun e => ⟨negative, natValue (whole ++ frac), e - frac.length⟩

/-- The value that an ASCII name stands for, in any case. -/
def named? (negative : Bool) (cs : List Char) : Option Double :=
  let name := String.ofList (cs.map Char.toLower)
  if name = "nan" then some .nan
  else if name = "inf" ∨ name = "infinity" then some (.infinite negative)
  else none

end Numeral

/-- The double that a numeral or the name of a special value denotes. -/
def Double.read? (cs : List Char) : Option Double :=
  let (negative, body) := Numeral.sign cs
  match Numeral.decimal? negative body with
  | some d => some d.toDouble
  | none => Numeral.named? negative body

end Rulebook
