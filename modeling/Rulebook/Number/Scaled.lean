import Rulebook.Number.Decimal

/-!
# Decimals in double arithmetic

A way to read a decimal that is faster than exact and less so: the leading digits, as many as a
word of 64 bits holds, are rounded to a double, and that is multiplied or divided by a power of
ten, rounded as well. Where no step rounds, or only the last one, the result is the nearest double;
elsewhere it can be a neighbour of it.
-/

namespace Rulebook.Scaled

/-- The number of values of a word. -/
def wordLimit : Nat := 0x10000000000000000

/-- Appends to `word` the digits of a row up to the first one that makes it too long. What is
returned with the word is the number of digits that are left over. -/
def fill (word : Nat) : List Char → Nat × Nat
  | [] => (word, 0)
  | d :: ds =>
    let longer := 10 * word + Text.digitValue d
    if longer < wordLimit then fill longer ds else (word, ds.length + 1)

/-- The greatest exponent of a power of ten that is a finite double. -/
def topExponent : Nat := 308

/-- The units of the double nearest to a power of ten. -/
def powerUnits (exponent : Nat) : Nat := Double.roundUnits (Nat.pow 10 exponent * unitsPerOne) 1

/-- The double that `word * 10^exponent` is read as. -/
def toDouble (negative : Bool) (word : Nat) (exponent : Int) : Double :=
  let units := Double.roundUnits (word * unitsPerOne) 1
  let up := exponent.toNat
  let down := (-exponent).toNat
  if word = 0 then Double.ofRatio negative 0 1
  else if topExponent < up then .infinite negative
  else if down = 0 then Double.ofRatio negative (units * powerUnits up) unitsPerOne
  else if down ≤ topExponent then Double.ofRatio negative (units * unitsPerOne) (powerUnits down)
  else if down ≤ 2 * topExponent then
    -- No double holds the whole power, so the division takes two steps.
    let units := Double.roundUnits (units * unitsPerOne) (powerUnits topExponent)
    Double.ofRatio negative (units * unitsPerOne) (powerUnits (down - topExponent))
  else Double.ofRatio negative 0 1

/-- The double that a numeral is read as. Digits that the word has no room for count as zeros in
front of the point and are dropped behind it. -/
def read (negative : Bool) (whole frac : List Char) (exponent : Int) : Double :=
  let (word, wholeLeft) := fill 0 whole
  let (word, fracLeft) := fill word frac
  toDouble negative word (exponent + wholeLeft - (frac.length - fracLeft))

end Rulebook.Scaled
