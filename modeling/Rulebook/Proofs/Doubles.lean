import Rulebook.Number.Double

/-!
# Doubles that are kept as they are

Rounding leaves a count of units alone that a double holds already, and an integer of 64 bits is
rounded to a finite double. An integer of at most 53 bits is a double itself, and so the integers
that stand for whole numbers in JSON give the numbers back, but for the sign of a zero
(`ofInt_of_whole?`). No comparison and no text shows that sign.
-/

namespace Rulebook

/-- Rounding a whole quotient gives the quotient. -/
theorem roundHalfEven_mul (k : Nat) {d : Nat} (hd : 0 < d) : roundHalfEven (k * d) d = k := by
  have hmod : k * d % d = 0 := Nat.mul_mod_left k d
  have hdiv : k * d / d = k := Nat.mul_div_cancel k hd
  unfold roundHalfEven
  rw [hmod, hdiv, if_pos (by omega)]

/-- The numbers up to `2^66` stay below the overflow bound. -/
theorem mul_unitsPerOne_lt {m : Nat} (hm : m ≤ Nat.pow 2 66) :
    m * unitsPerOne < overflowUnits := by
  have hexponent : 66 < 1024 := by decide
  have hsum : 2098 = 1024 + 1074 := rfl
  unfold overflowUnits unitsPerOne
  rw [hsum]
  -- With closed exponents the powers would be computed.
  generalize 1024 = a at hexponent
  generalize 1074 = b
  have hlt : m < Nat.pow 2 a :=
    Nat.lt_of_le_of_lt hm (Nat.pow_lt_pow_right Nat.one_lt_two hexponent)
  calc m * Nat.pow 2 b
      < Nat.pow 2 a * Nat.pow 2 b := Nat.mul_lt_mul_of_pos_right hlt (Nat.two_pow_pos b)
    _ = Nat.pow 2 (a + b) := (Nat.pow_add 2 a b).symm

/-- The number one is a positive count of units. -/
theorem unitsPerOne_pos : 0 < unitsPerOne := by
  unfold unitsPerOne
  generalize 1074 = n
  exact Nat.two_pow_pos n

/-- No units are a double. -/
theorem representable_zero : Representable 0 := ⟨overflowUnits_pos, Nat.dvd_zero _⟩

/-- An integer of at most 53 bits is a double. -/
theorem representable_mul_unitsPerOne {m : Nat} (hm : m ≤ Nat.pow 2 53) :
    Representable (m * unitsPerOne) := by
  refine ⟨?_, ?_⟩
  · exact mul_unitsPerOne_lt (Nat.le_trans hm (by decide))
  · unfold unitsPerOne
    generalize 1074 = n
    exact two_pow_log2_dvd hm

namespace Double

/-- Rounding leaves a representable count of units alone. -/
theorem roundUnits_eq {units : Nat} (h : Representable units) : roundUnits units 1 = units := by
  obtain ⟨k, hk⟩ := h.2
  -- The bits in excess of a significand are zeros, so nothing is cut off.
  have hexcess : excess units 1 = units.log2 - 52 := by rw [excess, Nat.div_one]
  unfold roundUnits
  rw [hexcess, Nat.one_mul]
  generalize hpow : Nat.pow 2 (units.log2 - 52) = p at hk
  have hp : 0 < p := hpow ▸ Nat.two_pow_pos _
  rw [hk, Nat.mul_comm p k, roundHalfEven_mul k hp]

/-- The double nearest to a representable count of units is that count. -/
theorem ofRatio_one (negative : Bool) {units : Nat} (h : Representable units) :
    ofRatio negative units 1 = .finite negative units h := by
  unfold ofRatio
  rw [dif_pos (by rw [roundUnits_eq h]; exact h.1)]
  congr 1
  exact roundUnits_eq h

/-- Rounding to whole units at most doubles a count, up to one unit. -/
theorem roundUnits_le (num : Nat) : roundUnits num 1 ≤ 2 * num + 1 := by
  have hpow : Nat.pow 2 (excess num 1) ≤ num + 1 := by
    rw [excess, Nat.div_one]
    by_cases h : num.log2 ≤ 52
    · rw [Nat.sub_eq_zero_of_le h]
      exact Nat.le_add_left 1 num
    · have hne : num ≠ 0 := by
        rintro rfl
        exact h (Nat.zero_le 52)
      calc Nat.pow 2 (num.log2 - 52)
          ≤ 2 ^ num.log2 := Nat.pow_le_pow_right (by decide) (Nat.sub_le _ _)
        _ ≤ num := Nat.log2_self_le hne
        _ ≤ num + 1 := Nat.le_succ num
  have hdiv : num / Nat.pow 2 (excess num 1) * Nat.pow 2 (excess num 1) ≤ num :=
    Nat.div_mul_le_self _ _
  unfold roundUnits
  rw [Nat.one_mul]
  calc roundHalfEven num (Nat.pow 2 (excess num 1)) * Nat.pow 2 (excess num 1)
      ≤ (num / Nat.pow 2 (excess num 1) + 1) * Nat.pow 2 (excess num 1) :=
        Nat.mul_le_mul_right _ (roundHalfEven_le _ _)
    _ = num / Nat.pow 2 (excess num 1) * Nat.pow 2 (excess num 1) + Nat.pow 2 (excess num 1) :=
        Nat.succ_mul _ _
    _ ≤ 2 * num + 1 := by omega

/-- An integer of 64 bits is rounded to a finite double. -/
theorem isFinite_ofInt {i : Int} (h : -0x8000000000000000 ≤ i ∧ i < 0x10000000000000000) :
    (ofInt i).isFinite = true := by
  have hlt : roundUnits (i.natAbs * unitsPerOne) 1 < overflowUnits := by
    have hround := roundUnits_le (i.natAbs * unitsPerOne)
    have hle : i.natAbs * unitsPerOne ≤ 0x10000000000000000 * unitsPerOne :=
      Nat.mul_le_mul_right _ (by omega)
    have hbound := mul_unitsPerOne_lt (by decide : 0x20000000000000001 ≤ Nat.pow 2 66)
    have hpos := unitsPerOne_pos
    omega
  unfold ofInt ofRatio
  rw [dif_pos hlt]
  rfl

/-- An integer of at most 53 bits is rounded to itself. -/
theorem ofInt_eq {i : Int} (h : i.natAbs ≤ Nat.pow 2 53) :
    ofInt i =
      .finite (decide (i < 0)) (i.natAbs * unitsPerOne) (representable_mul_unitsPerOne h) :=
  ofRatio_one _ _

/-! ## The sign of a zero -/

/-- Zero with a sign. -/
def negativeZero : Double := .finite true 0 representable_zero

/-- The double with a positive zero for a negative one. -/
def dropZeroSign : Double → Double
  | .finite negative units h => .finite (negative && decide (units ≠ 0)) units h
  | x => x

/-- A zero has the same place among the reals with either sign. -/
theorem rank_dropZeroSign (x : Double) : x.dropZeroSign.rank = x.rank := by
  cases x with
  | nan => rfl
  | infinite negative => rfl
  | finite negative units h =>
    cases negative with
    | false => rfl
    | true =>
      by_cases hunits : units = 0
      · subst hunits
        rfl
      · simp [dropZeroSign, hunits]

/-- The sign of a zero on the right does not matter to a comparison. -/
theorem compare?_dropZeroSign (x y : Double) : x.compare? y.dropZeroSign = x.compare? y := by
  rw [compare?, compare?, rank_dropZeroSign]

/-- The sign of a zero on the right does not matter to equality. -/
theorem numEq_dropZeroSign (x y : Double) : x.numEq y.dropZeroSign = x.numEq y := by
  rw [numEq, numEq, compare?_dropZeroSign]

/-- A finite double equals itself without the sign of a zero. -/
theorem dropZeroSign_numEq {x : Double} (h : x.isFinite = true) :
    x.dropZeroSign.numEq x = true := by
  rw [numEq, compare?, rank_dropZeroSign]
  cases x with
  | finite negative units _ => simp [rank]
  | nan => cases h
  | infinite _ => cases h

/-- The sign of a zero does not matter to the integer that a double is. -/
theorem whole?_dropZeroSign (x : Double) : x.dropZeroSign.whole? = x.whole? := by
  cases x with
  | nan => rfl
  | infinite negative => rfl
  | finite negative units h =>
    by_cases hunits : units = 0
    · subst hunits
      cases negative <;> simp [dropZeroSign, whole?, signed]
    · simp [dropZeroSign, hunits]

/-- A sign is no part of the magnitude. -/
theorem natAbs_signed (negative : Bool) (m : Nat) : (signed negative m).natAbs = m := by
  cases negative with
  | false => exact Int.natAbs_natCast m
  | true => exact (Int.natAbs_neg _).trans (Int.natAbs_natCast m)

/-- What has a sign is negative if the sign is, but for zero, which an integer has only once. -/
theorem decide_signed_lt (negative : Bool) (m : Nat) :
    decide (signed negative m < 0) = (negative && decide (m ≠ 0)) := by
  cases negative with
  | false =>
    rw [Bool.false_and, decide_eq_false_iff_not, signed]
    exact Int.not_lt.2 (Int.natCast_nonneg _)
  | true =>
    rw [Bool.true_and, decide_eq_decide, signed, if_pos rfl]
    omega

/-- A double that is an integer of at most 53 bits is the double of that integer, but for the sign
of a zero. -/
theorem ofInt_of_whole? {x : Double} {i : Int} (h : x.whole? = some i)
    (hi : i.natAbs ≤ Nat.pow 2 53) : ofInt i = x.dropZeroSign := by
  rw [ofInt_eq hi]
  cases x with
  | nan => cases h
  | infinite negative => cases h
  | finite negative units hunits =>
    rw [whole?] at h
    split at h
    · next hmod =>
      cases h
      have hmul : units / unitsPerOne * unitsPerOne = units :=
        Nat.div_mul_cancel (Nat.dvd_of_mod_eq_zero hmod)
      have hpos := unitsPerOne_pos
      -- The quotient is exact, so it is zero only for the number zero.
      have hzero : units / unitsPerOne = 0 ↔ units = 0 := by
        constructor
        · intro hq
          rw [← hmul, hq, Nat.zero_mul]
        · rintro rfl
          exact Nat.zero_div _
      -- An integer has no negative zero, and so the sign of a zero is lost.
      simp only [dropZeroSign, natAbs_signed, hmul, decide_signed_lt, ne_eq, hzero]
    · cases h

end Double

end Rulebook
