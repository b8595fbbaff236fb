import Rulebook.Json.Token
import Rulebook.Settings.Setting
import Rulebook.Text.Split

/-!
# Numbers of a TOML document

Integers of 64 bits to the bases two, eight, ten and sixteen, and doubles. Underscores may stand
between digits, and the digits of a decimal number start with no zero.
-/

namespace Rulebook.Toml

open Text

/-- The digits of a number without the underscores, each of which stands between two digits. -/
def digits? (isDigit : Char → Bool) (cs : List Char) : Option (List Char) :=
  let pieces := split '_' cs
  if pieces.all fun piece => !piece.isEmpty && piece.all isDigit then some pieces.flatten else none

/-- The digits of a decimal number, of which the first is no zero unless it is the only one. -/
def decimal? (cs : List Char) : Option (List Char) := do
  let ds ← digits? isAsciiDigit cs
  if ds.head? = some '0' && ds.length ≠ 1 then none else pure ds

/-- The setting for an integer, if 64 bits hold it. -/
def integer? (i : Int) : Option Setting := if Setting.isWord64 i then some (.integer i) else none

/-- An integer to a base other than ten. -/
def based? (base : Nat) (cs : List Char) : Option Setting := do
  let isDigit (c : Char) := (Json.Token.hexValue? c).any (· < base)
  let ds ← digits? isDigit cs
  integer? (ds.foldl (fun n c => base * n + (Json.Token.hexValue? c).getD 0) 0 : Nat)

/-- The exponent of a float, if `cs` is one or nothing. -/
def exponent? : List Char → Option Int
  | [] => some 0
  | e :: cs =>
    if e = 'e' ∨ e = 'E' then
      let (negative, ds) := Numeral.sign cs
      (digits? isAsciiDigit ds).map fun ds =>
        if negative then -(Numeral.natValue ds : Int) else Numeral.natValue ds
    else none

/-- A float that is not too great. -/
def real? (d : Decimal) : Option Setting :=
  if d.toDouble.isFinite then some (.real d.toDouble) else none

/-- A decimal number: an integer, or a float if it has a fraction or an exponent. -/
def number? (negative : Bool) (cs : List Char) : Option Setting := do
  let isMantissa (c : Char) := isAsciiDigit c || c = '_'
  let whole ← decimal? (cs.takeWhile isMantissa)
  match cs.dropWhile isMantissa with
  | [] =>
    let n : Int := Numeral.natValue whole
    integer? (if negative then -n else n)
  | '.' :: rest => do
    let fraction ← digits? isAsciiDigit (rest.takeWhile isMantissa)
    let exponent ← exponent? (rest.dropWhile isMantissa)
    real? ⟨negative, Numeral.natValue (whole ++ fraction), exponent - fraction.length⟩
  | rest => do
    let exponent ← exponent? rest
    real? ⟨negative, Numeral.natValue whole, exponent⟩

/-- The number or the flag that a word denotes. -/
def word? (cs : List Char) : Option Setting :=
  match String.ofList cs with
  | "true" => some (.flag true)
  | "false" => some (.flag false)
  | "inf" | "+inf" => some (.real (.infinite false))
  | "-inf" => some (.real (.infinite true))
  | "nan" | "+nan" | "-nan" => some (.real .nan)
  | _ =>
    match cs with
    | '0' :: 'x' :: ds => based? 16 ds
    | '0' :: 'o' :: ds => based? 8 ds
    | '0' :: 'b' :: ds => based? 2 ds
    | '-' :: ds => number? true ds
    | '+' :: ds => number? false ds
    | ds => number? false ds

end Rulebook.Toml
