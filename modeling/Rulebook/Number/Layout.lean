import Rulebook.Number.Shortest

/-!
# How numbers are written

The same shortest digits are laid out in two ways: plainly, with as many zeros as it takes, and
for interchange, with an exponent where the plain form would be long.
-/

namespace Rulebook

namespace Decimal

/-- The digits of a decimal; `0` for none. -/
def digitChars (d : Decimal) : List Char := Nat.toDigits 10 d.digits

/-- The minus of a negative number. -/
def signChars (d : Decimal) : List Char := if d.negative then ['-'] else []

/-- The number of digits in front of the point; not positive if zeros follow the point. -/
def pointAt (d : Decimal) : Int := d.digitChars.length + d.exponent

/-- The digits with a point among them or zeros around them, and `suffix` behind an integer. -/
def positional (suffix : List Char) (d : Decimal) : List Char :=
  let ds := d.digitChars
  d.signChars ++
    if 0 ≤ d.exponent then ds ++ List.replicate d.exponent.toNat '0' ++ suffix
    else if 0 < d.pointAt then ds.take d.pointAt.toNat ++ '.' :: ds.drop d.pointAt.toNat
    else '0' :: '.' :: (List.replicate (-d.pointAt).toNat '0' ++ ds)

/-- One digit, the others behind a point, and the exponent with its sign. -/
def scientific (d : Decimal) : List Char :=
  let e := d.pointAt - 1
  d.signChars ++ d.digitChars.take 1 ++
    (match d.digitChars.drop 1 with
     | [] => []
     | more => '.' :: more) ++
    'e' :: (if e < 0 then '-' else '+') :: Nat.toDigits 10 e.natAbs

/-- The interchange form: an integer ends in `.0`, and an exponent is written from `10^16` on and
below `10^-5`. -/
def interchange (d : Decimal) : List Char :=
  if d.digits = 0 ∨ (-5 ≤ d.pointAt - 1 ∧ d.pointAt - 1 < 16) then d.positional ['.', '0']
  else d.scientific

end Decimal

namespace Double

/-- The plain form: never an exponent, no fraction for an integer. -/
def plain : Double → String
  | .nan => "NaN"
  | .infinite negative => if negative then "-inf" else "inf"
  | .finite negative units h => String.ofList ((shortest .up negative units h).positional [])

end Double

end Rulebook
