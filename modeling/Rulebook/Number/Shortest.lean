import Rulebook.Number.Decimal

/-!
# The shortest decimal of a double

A double has a finite decimal expansion. The shortest decimal is the one of fewest digits that
reads back as the double and, of those, the one nearest to it; two can be equally near, and a
`Tie` says which is taken. A candidate is tested by reading it, so what is found reads back.
-/

namespace Rulebook

/-- Which of two equally near candidates is taken. -/
inductive Tie where
  /-- The greater one. -/
  | up
  /-- The one with an even last digit. -/
  | even
  deriving DecidableEq

namespace Shortest

/-- The number of decimal digits of `n`; none for `0`. -/
def length (n : Nat) : Nat := if n = 0 then 0 else length (n / 10) + 1
termination_by n
decreasing_by omega

/-- `d` without the zeros at its end, which move into the exponent. -/
def stripZeros (d : Decimal) : Decimal :=
  if d.digits ≠ 0 ∧ d.digits % 10 = 0 then
    stripZeros { d with digits := d.digits / 10, exponent := d.exponent + 1 }
  else d
termination_by d.digits
decreasing_by show d.digits / 10 < d.digits; omega

/-- The nearer of the two candidates around `exact` on the grid of `10^drop`. -/
def nearer (tie : Tie) (exact drop : Nat) : Nat :=
  let low := exact / Nat.pow 10 drop
  match compare (2 * (exact % Nat.pow 10 drop)) (Nat.pow 10 drop) with
  | .lt => low
  | .gt => low + 1
  | .eq => match tie with
    | .up => low + 1
    | .even => low + low % 2

/-- The candidate that reads back as `x` on the grid of `10^drop` units of the exact expansion. -/
def onGrid? (tie : Tie) (x : Double) (negative : Bool) (exact drop : Nat) : Option Decimal :=
  let candidate (digits : Nat) : Decimal := ⟨negative, digits, drop - 1074⟩
  let low := exact / Nat.pow 10 drop
  let near := nearer tie exact drop
  -- At a power of two the interval that reads back reaches less far down than up, so the nearer
  -- candidate may fail where the other one does not.
  [near, low, low + 1].map candidate |>.find? fun d => d.toDouble = x

end Shortest

/-- The shortest decimal that reads back as a finite double. Its exact expansion, in units of
`10^-1074`, stands at the end of the search. -/
def Double.shortest (tie : Tie) (negative : Bool) (units : Nat) (h : Representable units) :
    Decimal :=
  if units = 0 then ⟨negative, 0, 0⟩ else
  let exact := units * Nat.pow 5 1074
  let length := Shortest.length exact
  Shortest.stripZeros <|
    ((List.range 17).findSome? fun n =>
      Shortest.onGrid? tie (.finite negative units h) negative exact (length - (n + 1))).getD
    ⟨negative, exact, -1074⟩

end Rulebook
