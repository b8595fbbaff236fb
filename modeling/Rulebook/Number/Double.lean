/-!
# Double-precision numbers

A finite double is a whole number of units of `2^-1074`, so comparing two of them is comparing
integers and rounding is integer division. `Double.ofRatio` rounds any fraction to the nearest
double, a tie to the even significand; every other conversion goes through it.
-/

namespace Rulebook

/-- The units of `2^-1074` in the number one. -/
def unitsPerOne : Nat := Nat.pow 2 1074

/-- The units in `2^1024`, the first power of two that no finite double reaches. -/
def overflowUnits : Nat := Nat.pow 2 2098

/-- Some count of units is below the overflow bound. -/
theorem overflowUnits_pos : 0 < overflowUnits := by
  unfold overflowUnits
  -- With a closed exponent the power would be computed.
  generalize 2098 = n
  exact Nat.two_pow_pos n

/-- A count of units that a double holds: below the overflow bound, with at most 53 significant
bits. -/
def Representable (units : Nat) : Prop :=
  units < overflowUnits ∧ Nat.pow 2 (units.log2 - 52) ∣ units

/-- A number of the IEEE 754 format binary64. -/
inductive Double where
  | nan
  | infinite (negative : Bool)
  | finite (negative : Bool) (units : Nat) (representable : Representable units)
  deriving DecidableEq

/-- The integer nearest to `num / den`; of two equally near, the even one. -/
def roundHalfEven (num den : Nat) : Nat :=
  if 2 * (num % den) < den then num / den
  else if den < 2 * (num % den) then num / den + 1
  else num / den + num / den % 2

/-- Rounding moves a quotient up by at most one. -/
theorem roundHalfEven_le (num den : Nat) : roundHalfEven num den ≤ num / den + 1 := by
  unfold roundHalfEven
  split
  · omega
  · split <;> omega

/-- At most 53 significant bits, shifted to the left, keep the shape of a representable count. -/
theorem two_pow_log2_dvd {m s : Nat} (hm : m ≤ Nat.pow 2 53) :
    Nat.pow 2 ((m * Nat.pow 2 s).log2 - 52) ∣ m * Nat.pow 2 s := by
  rw [Nat.pow_eq] at hm
  simp only [Nat.pow_eq]
  by_cases h0 : m = 0
  · simp [h0]
  by_cases htop : m = 2 ^ 53
  · subst htop
    rw [← Nat.pow_add, Nat.log2_two_pow]
    exact Nat.pow_dvd_pow 2 (by omega)
  · have hlt : m * 2 ^ s < 2 ^ (53 + s) := by
      rw [Nat.pow_add]
      exact Nat.mul_lt_mul_of_pos_right (by omega) (Nat.two_pow_pos s)
    have hne : m * 2 ^ s ≠ 0 := Nat.mul_ne_zero h0 (Nat.ne_of_gt (Nat.two_pow_pos s))
    have hlog : (m * 2 ^ s).log2 < 53 + s := (Nat.log2_lt hne).2 hlt
    exact Nat.dvd_trans (Nat.pow_dvd_pow 2 (by omega)) (Nat.dvd_mul_left _ m)

/-- A quotient of units, divided once more by its excess of bits, has at most 53 of them. -/
theorem div_shift_lt (num den : Nat) :
    num / (den * Nat.pow 2 ((num / den).log2 - 52)) < Nat.pow 2 53 := by
  simp only [Nat.pow_eq]
  rw [← Nat.div_div_eq_div_mul]
  generalize num / den = q
  rw [Nat.div_lt_iff_lt_mul (Nat.two_pow_pos _), ← Nat.pow_add]
  exact Nat.lt_of_lt_of_le Nat.lt_log2_self (Nat.pow_le_pow_right (by decide) (by omega))

namespace Double

/-- The number of bits that a count of `num / den` units has beyond the 53 of a significand. -/
def excess (num den : Nat) : Nat := (num / den).log2 - 52

/-- The rounding of `num / den` units to a count with at most 53 significant bits. -/
def roundUnits (num den : Nat) : Nat :=
  roundHalfEven num (den * Nat.pow 2 (excess num den)) * Nat.pow 2 (excess num den)

theorem two_pow_dvd_roundUnits (num den : Nat) :
    Nat.pow 2 ((roundUnits num den).log2 - 52) ∣ roundUnits num den :=
  two_pow_log2_dvd <| Nat.le_trans (roundHalfEven_le _ _) (div_shift_lt num den)

/-- The double nearest to `num / den` units of `2^-1074`, negated if `negative`. -/
def ofRatio (negative : Bool) (num den : Nat) : Double :=
  if h : roundUnits num den < overflowUnits then
    .finite negative (roundUnits num den) ⟨h, two_pow_dvd_roundUnits num den⟩
  else .infinite negative

/-- The double nearest to an integer. -/
def ofInt (i : Int) : Double := ofRatio (decide (i < 0)) (i.natAbs * unitsPerOne) 1

/-- Zero without a sign. -/
def zero : Double := .finite false 0 ⟨overflowUnits_pos, Nat.dvd_zero _⟩

/-- One. -/
def one : Double := ofInt 1

/-- The units of a finite double with its sign; both zeros give `0`. -/
def signed (negative : Bool) (units : Nat) : Int := if negative then -units else units

/-- A double's place among the extended reals: which infinity, if any, then its units. -/
def rank : Double → Option (Int × Int)
  | .nan => none
  | .infinite negative => some (if negative then -1 else 1, 0)
  | .finite negative units _ => some (0, signed negative units)

/-- The order of two doubles; a NaN has none. -/
def compare? (x y : Double) : Option Ordering :=
  match x.rank, y.rank with
  | some a, some b => some ((compare a.1 b.1).then (compare a.2 b.2))
  | _, _ => none

/-- Numeric equality: zeros of either sign are equal, a NaN equals nothing. -/
def numEq (x y : Double) : Bool := x.compare? y == some .eq

/-- Neither a NaN nor an infinity. -/
def isFinite : Double → Bool
  | .finite .. => true
  | _ => false

/-- Not a number. -/
def isNaN : Double → Bool
  | .nan => true
  | _ => false

/-- The integer that a double is, if it is one. -/
def whole? : Double → Option Int
  | .finite negative units _ =>
    if units % unitsPerOne = 0 then some (signed negative (units / unitsPerOne)) else none
  | _ => none

/-- The double with the given sign, biased exponent and fraction fields. -/
def ofFields (negative : Bool) (biased fraction : Nat) : Double :=
  if biased = 2047 then if fraction = 0 then .infinite negative else .nan
  else if biased = 0 then ofRatio negative fraction 1
  else ofRatio negative ((0x10000000000000 + fraction) * Nat.pow 2 (biased - 1)) 1

/-- The double that an interchange word stands for. -/
def ofBits (word : UInt64) : Double :=
  ofFields (word.toNat / 0x8000000000000000 == 1) (word.toNat / 0x10000000000000 % 0x800)
    (word.toNat % 0x10000000000000)

/-- The interchange word of a double; every NaN has the same one. -/
def toBits : Double → UInt64
  | .nan => 0x7ff8000000000000
  | .infinite negative => signBit negative ||| 0x7ff0000000000000
  | .finite negative units _ =>
    signBit negative |||
      (if units < 0x10000000000000 then units.toUInt64
       else ((units.log2 - 51) * 0x10000000000000 +
         (units / Nat.pow 2 (units.log2 - 52) - 0x10000000000000)).toUInt64)
where
  signBit (negative : Bool) : UInt64 := if negative then 0x8000000000000000 else 0

end Double

end Rulebook
