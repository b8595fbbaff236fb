import Mathlib.Data.Nat.Log
import Rulebook.Number.Scaled
import Rulebook.Proofs.Decimals
import Rulebook.Proofs.Digits

/-!
# Reading by scaling

Rounding keeps the order of fractions (`Double.roundUnits_le_of_mul_le`), so what a number is read
as by scaling is bounded by what a greater one is read as. A number up to the middle between the two
greatest doubles is read as a finite double (`Scaled.isFinite_read`), and every double but the
greatest is the nearest one only to such numbers (`Decimal.upToMiddle_of_toDouble`).
-/

namespace Rulebook

/-! ## The order of what is rounded -/

/-- Rounding a greater numerator gives no less. -/
theorem roundHalfEven_le_of_le {num num' : Nat} (den : Nat) (h : num ≤ num') :
    roundHalfEven num den ≤ roundHalfEven num' den := by
  have hdiv : num / den ≤ num' / den := Nat.div_le_div_right h
  rcases Nat.lt_or_eq_of_le hdiv with hlt | heq
  · calc roundHalfEven num den
        ≤ num / den + 1 := roundHalfEven_le num den
      _ ≤ num' / den := hlt
      _ ≤ roundHalfEven num' den := div_le_roundHalfEven num' den
  · -- With the same quotient the remainders decide.
    have hnum := Nat.div_add_mod num den
    have hnum' := Nat.div_add_mod num' den
    rw [heq] at hnum
    have hmod : num % den ≤ num' % den := by omega
    unfold roundHalfEven
    rw [heq]
    (repeat' split) <;> omega

namespace Double

/-- A quotient with more bits than a significand has as many as one when it is shifted. -/
theorem two_pow_le_div_shift {num den : Nat} (h : 0 < excess num den) :
    Nat.pow 2 52 ≤ num / (den * Nat.pow 2 (excess num den)) := by
  unfold excess at h ⊢
  rw [← Nat.div_div_eq_div_mul]
  generalize num / den = q at h ⊢
  have hne : q ≠ 0 := by
    rintro rfl
    rw [Nat.log2_zero] at h
    omega
  have hsum : 52 + (q.log2 - 52) = q.log2 := by omega
  rw [Nat.le_div_iff_mul_le (k := Nat.pow 2 _) (Nat.two_pow_pos _), Nat.pow_eq, Nat.pow_eq,
    ← Nat.pow_add, hsum]
  exact Nat.log2_self_le hne

/-- Rounding to the bits of a significand gives no less for a greater numerator. -/
theorem roundUnits_le_of_le {num num' : Nat} (den : Nat) (h : num ≤ num') :
    roundUnits num den ≤ roundUnits num' den := by
  have hexcess : excess num den ≤ excess num' den := by
    have hlog : (num / den).log2 ≤ (num' / den).log2 := by
      rw [Nat.log2_eq_log_two, Nat.log2_eq_log_two]
      exact Nat.log_mono_right (Nat.div_le_div_right h)
    unfold excess
    omega
  rcases Nat.lt_or_eq_of_le hexcess with hlt | heq
  · -- With more bits the significand does not fall below the first one that has them.
    have hpos : 0 < excess num' den := by omega
    have hbits := two_pow_le_div_shift hpos
    have hround : roundHalfEven num (den * Nat.pow 2 (excess num den)) ≤ Nat.pow 2 53 :=
      Nat.le_trans (roundHalfEven_le _ _) (div_shift_lt num den)
    unfold roundUnits
    generalize excess num den = e at hlt hround ⊢
    generalize excess num' den = e' at hlt hbits ⊢
    have hpowers : Nat.pow 2 53 * Nat.pow 2 e ≤ Nat.pow 2 52 * Nat.pow 2 e' := by
      simp only [Nat.pow_eq, ← Nat.pow_add]
      exact Nat.pow_le_pow_right Nat.two_pos (by omega)
    calc roundHalfEven num (den * Nat.pow 2 e) * Nat.pow 2 e
        ≤ Nat.pow 2 53 * Nat.pow 2 e := Nat.mul_le_mul_right _ hround
      _ ≤ Nat.pow 2 52 * Nat.pow 2 e' := hpowers
      _ ≤ num' / (den * Nat.pow 2 e') * Nat.pow 2 e' := Nat.mul_le_mul_right _ hbits
      _ ≤ roundHalfEven num' (den * Nat.pow 2 e') * Nat.pow 2 e' :=
          Nat.mul_le_mul_right _ (div_le_roundHalfEven _ _)
  · unfold roundUnits
    rw [heq]
    exact Nat.mul_le_mul_right _ (roundHalfEven_le_of_le _ h)

/-- Rounding to the bits of a significand gives no less for a greater fraction. -/
theorem roundUnits_le_of_mul_le {num den num' den' : Nat} (hden : 0 < den) (hden' : 0 < den')
    (h : num * den' ≤ num' * den) : roundUnits num den ≤ roundUnits num' den' := by
  calc roundUnits num den
      = roundUnits (den' * num) (den' * den) := (roundUnits_mul_left hden' num den).symm
    _ ≤ roundUnits (den * num') (den' * den) := by
        refine roundUnits_le_of_le _ ?_
        rwa [Nat.mul_comm den' num, Nat.mul_comm den num']
    _ = roundUnits (den * num') (den * den') := by rw [Nat.mul_comm den' den]
    _ = roundUnits num' den' := roundUnits_mul_left hden num' den'

/-- A fraction that is rounded below the overflow bound is rounded to a finite double. -/
theorem isFinite_ofRatio (negative : Bool) {num den : Nat}
    (h : roundUnits num den < overflowUnits) : (ofRatio negative num den).isFinite = true := by
  rw [ofRatio, dif_pos h]
  rfl

end Double

/-! ## Finite results -/

/-- The greatest number of units in a finite double. -/
def topUnits : Nat := (Nat.pow 2 53 - 1) * Nat.pow 2 2045

/-- The greatest number of units is a double. -/
theorem representable_topUnits : Representable topUnits := by
  have hsum : 2098 = 53 + 2045 := rfl
  unfold Representable overflowUnits topUnits
  rw [hsum]
  -- With a closed exponent the power would be computed.
  generalize 2045 = s
  refine ⟨?_, two_pow_log2_dvd (Nat.sub_le _ _)⟩
  calc (Nat.pow 2 53 - 1) * Nat.pow 2 s
      < Nat.pow 2 53 * Nat.pow 2 s := Nat.mul_lt_mul_of_pos_right (by decide) (Nat.two_pow_pos s)
    _ = Nat.pow 2 (53 + s) := (Nat.pow_add 2 53 s).symm

/-- A number with at most 53 significant bits that lies below a power of two lies as far below it
as one of these bits is worth. -/
theorem le_of_two_pow_log2_dvd {units s : Nat} (hlt : units < Nat.pow 2 (53 + s))
    (hdvd : Nat.pow 2 (units.log2 - 52) ∣ units) : units ≤ (Nat.pow 2 53 - 1) * Nat.pow 2 s := by
  have hsplit (n : Nat) : Nat.pow 2 (n + s) = Nat.pow 2 n * Nat.pow 2 s := Nat.pow_add 2 n s
  by_contra hover
  have hlow : Nat.pow 2 (52 + s) ≤ units := by
    rw [hsplit]
    exact Nat.le_trans (Nat.mul_le_mul_right _ (by decide)) (Nat.le_of_not_le hover)
  have hne : units ≠ 0 := Nat.ne_of_gt (Nat.lt_of_lt_of_le (Nat.two_pow_pos _) hlow)
  have hlog : units.log2 - 52 = s := by
    have hge : 52 + s ≤ units.log2 := (Nat.le_log2 hne).2 hlow
    have hless : units.log2 < 53 + s := (Nat.log2_lt hne).2 hlt
    omega
  rw [hlog] at hdvd
  obtain ⟨k, rfl⟩ := hdvd
  rw [hsplit, Nat.mul_comm] at hlt
  rw [Nat.mul_comm] at hover
  have hk : k < Nat.pow 2 53 := Nat.lt_of_mul_lt_mul_right hlt
  exact hover (Nat.mul_le_mul_right _ (Nat.le_sub_one_of_lt hk))

/-- No finite double has more units. -/
theorem Representable.le_topUnits {units : Nat} (h : Representable units) : units ≤ topUnits := by
  obtain ⟨hlt, hdvd⟩ := h
  have hsum : 2098 = 53 + 2045 := rfl
  revert hlt
  unfold overflowUnits topUnits
  rw [hsum]
  -- With a closed exponent the power would be computed.
  generalize 2045 = s
  exact fun hlt => le_of_two_pow_log2_dvd hlt hdvd

namespace Scaled

open Double

/-- The middle between the two greatest finite doubles. -/
def middle : Nat := Nat.pow 2 1024 - 3 * Nat.pow 2 970

/-- A number beyond the middle is rounded to the greatest double, or beyond it. -/
theorem topUnits_le_roundUnits : topUnits ≤ roundUnits ((middle + 1) * unitsPerOne) 1 := by
  decide +kernel

/-- The greatest word that makes no number beyond the middle with a power of ten. -/
def topWord (exponent : Nat) : Nat := min (middle / Nat.pow 10 exponent) (wordLimit - 1)

/-- The units of the first number that is too long for a word. -/
def limitUnits : Nat := wordLimit * unitsPerOne

/-- The first number that is too long for a word is a double. -/
theorem representable_limitUnits : Representable limitUnits := by
  unfold Representable
  decide +kernel

/-- The middle lies below the first power of ten that is no finite double. Every word lies below the
middle, with as many as 288 zeros behind it. -/
theorem middle_bounds : middle < Nat.pow 10 (topExponent + 1) ∧ wordLimit ≤ middle ∧
    topWord 288 = wordLimit - 1 := by
  decide +kernel

/-- With the greatest word for its power of ten a product is rounded to a finite double. Up to
`10^288` every word may stand there. -/
theorem roundUnits_topWord_lt : ∀ n < 21,
    roundUnits (roundUnits (topWord (288 + n) * unitsPerOne) 1 * powerUnits (288 + n))
      unitsPerOne < overflowUnits := by
  decide +kernel

/-- A greater power of ten has no fewer units. -/
theorem powerUnits_le_of_le {m n : Nat} (h : m ≤ n) : powerUnits m ≤ powerUnits n :=
  roundUnits_le_of_le 1 (Nat.mul_le_mul_right _ (Nat.pow_le_pow_right (by decide) h))

/-- A power of ten has no fewer units than the number one. -/
theorem unitsPerOne_le_powerUnits (n : Nat) : unitsPerOne ≤ powerUnits n := by
  have hone : powerUnits 0 = unitsPerOne := by
    have hround := roundUnits_eq (representable_mul_unitsPerOne (m := 1) (by decide))
    rw [Nat.one_mul] at hround
    rw [powerUnits, Nat.pow_eq, Nat.pow_zero, Nat.one_mul, hround]
  rw [← hone]
  exact powerUnits_le_of_le (Nat.zero_le n)

/-- A power of ten is a positive number of units. -/
theorem powerUnits_pos (n : Nat) : 0 < powerUnits n :=
  Nat.lt_of_lt_of_le unitsPerOne_pos (unitsPerOne_le_powerUnits n)

/-- Only powers of ten that are finite doubles make a number up to the middle. -/
theorem le_topExponent {word exponent : Nat} (hne : word ≠ 0)
    (h : word * Nat.pow 10 exponent ≤ middle) : exponent ≤ topExponent := by
  by_contra hlarge
  have hmiddle : middle < Nat.pow 10 (topExponent + 1) := middle_bounds.1
  have hover : topExponent + 1 ≤ exponent := Nat.lt_of_not_le hlarge
  generalize topExponent + 1 = bound at hmiddle hover
  have hten : Nat.pow 10 bound ≤ Nat.pow 10 exponent := Nat.pow_le_pow_right (by decide) hover
  have hle : Nat.pow 10 exponent ≤ word * Nat.pow 10 exponent :=
    Nat.le_mul_of_pos_left _ (Nat.pos_of_ne_zero hne)
  omega

/-- The product of a word and a power of ten is rounded to a finite double up to the middle. -/
theorem roundUnits_mul_lt {word exponent : Nat} (hword : word < wordLimit) (hne : word ≠ 0)
    (h : word * Nat.pow 10 exponent ≤ middle) :
    roundUnits (roundUnits (word * unitsPerOne) 1 * powerUnits exponent) unitsPerOne <
      overflowUnits := by
  -- There is one of the listed powers with a word that is as great at least.
  obtain ⟨n, hn, hexponent, htop⟩ :
      ∃ n < 21, exponent ≤ 288 + n ∧ word ≤ topWord (288 + n) := by
    by_cases hsmall : exponent ≤ 288
    · have htop : topWord 288 = wordLimit - 1 := middle_bounds.2.2
      exact ⟨0, by decide, hsmall, by rw [Nat.add_zero, htop]; omega⟩
    · have hbound : exponent ≤ 308 := le_topExponent hne h
      have hsum : 288 + (exponent - 288) = exponent := by omega
      refine ⟨exponent - 288, by omega, by omega, ?_⟩
      rw [hsum, topWord, Nat.le_min]
      exact ⟨(Nat.le_div_iff_mul_le (Nat.pow_pos (by decide))).2 h, by omega⟩
  refine Nat.lt_of_le_of_lt (roundUnits_le_of_le _ ?_) (roundUnits_topWord_lt n hn)
  exact Nat.mul_le_mul (roundUnits_le_of_le _ (Nat.mul_le_mul_right _ htop))
    (powerUnits_le_of_le hexponent)

/-- Dividing by a power of ten leaves less than a double that is greater. -/
theorem roundUnits_div_le {units : Nat} (h : units ≤ limitUnits) (n : Nat) :
    roundUnits (units * unitsPerOne) (powerUnits n) ≤ limitUnits := by
  calc roundUnits (units * unitsPerOne) (powerUnits n)
      ≤ roundUnits limitUnits 1 := by
        refine roundUnits_le_of_mul_le (powerUnits_pos n) Nat.one_pos ?_
        rw [Nat.mul_one]
        exact Nat.mul_le_mul h (unitsPerOne_le_powerUnits n)
    _ = limitUnits := roundUnits_eq representable_limitUnits

/-- A number of a word and a power of ten is read as a finite double up to the middle. -/
theorem isFinite_toDouble (negative : Bool) {word : Nat} {exponent : Int}
    (hword : word < wordLimit)
    (h : 0 ≤ exponent → word * Nat.pow 10 exponent.toNat ≤ middle) :
    (toDouble negative word exponent).isFinite = true := by
  have hzero : roundUnits 0 1 < overflowUnits := by
    rw [roundUnits_eq representable_zero]
    exact overflowUnits_pos
  have hunits : roundUnits (word * unitsPerOne) 1 ≤ limitUnits := by
    calc roundUnits (word * unitsPerOne) 1
        ≤ roundUnits limitUnits 1 :=
          roundUnits_le_of_le 1 (Nat.mul_le_mul_right _ (Nat.le_of_lt hword))
      _ = limitUnits := roundUnits_eq representable_limitUnits
  -- Only a product can overflow; a quotient stays below the first number beyond the words.
  unfold toDouble
  dsimp only
  split
  · exact isFinite_ofRatio negative hzero
  · next hne =>
    split
    · next hlarge =>
      exact absurd (le_topExponent hne (h (by omega))) (Nat.not_le.2 hlarge)
    · split
      · next hup =>
        exact isFinite_ofRatio negative (roundUnits_mul_lt hword hne (h (by omega)))
      · split
        · exact isFinite_ofRatio negative
            (Nat.lt_of_le_of_lt (roundUnits_div_le hunits _) representable_limitUnits.1)
        · split
          · exact isFinite_ofRatio negative (Nat.lt_of_le_of_lt
              (roundUnits_div_le (roundUnits_div_le hunits _) _) representable_limitUnits.1)
          · exact isFinite_ofRatio negative hzero

/-! ## Filling a word -/

/-- The word with as many zeros as digits are left over is no greater than all the digits. -/
theorem fill_bounds {word : Nat} (hword : word < wordLimit) (ds : List Char) :
    (fill word ds).1 < wordLimit ∧ (fill word ds).2 ≤ ds.length ∧
      (fill word ds).1 * Nat.pow 10 (fill word ds).2 ≤ Nat.ofDigitChars 10 ds word := by
  induction ds generalizing word with
  | nil => exact ⟨hword, Nat.le_refl _, Numeral.mul_pow_le_ofDigitChars word []⟩
  | cons d ds ih =>
    rw [fill]
    split
    · next hlonger =>
      obtain ⟨hless, hleft, hle⟩ := ih hlonger
      exact ⟨hless, Nat.le_succ_of_le hleft, hle⟩
    · exact ⟨hword, Nat.le_refl _, Numeral.mul_pow_le_ofDigitChars word (d :: ds)⟩

/-- A number that a word holds leaves no digits over. -/
theorem fill_eq {word : Nat} {ds : List Char} (h : Nat.ofDigitChars 10 ds word < wordLimit) :
    fill word ds = (Nat.ofDigitChars 10 ds word, 0) := by
  induction ds generalizing word with
  | nil => rfl
  | cons d ds ih =>
    have hlonger : 10 * word + Text.digitValue d < wordLimit := by
      calc 10 * word + Text.digitValue d
          ≤ (10 * word + Text.digitValue d) * Nat.pow 10 ds.length :=
            Nat.le_mul_of_pos_right _ (Nat.pow_pos (by decide))
        _ ≤ Nat.ofDigitChars 10 (d :: ds) word := Numeral.mul_pow_le_ofDigitChars _ ds
        _ < wordLimit := h
    rw [fill, if_pos hlonger]
    exact ih h

end Scaled

namespace Decimal

/-- The number is not beyond the middle between the two greatest doubles by one or more. -/
def UpToMiddle (d : Decimal) : Prop :=
  d.digits * Nat.pow 10 d.exponent.toNat <
    (Scaled.middle + 1) * Nat.pow 10 (-d.exponent).toNat

/-- Every double but the greatest is the nearest one only to numbers up to the middle. -/
theorem upToMiddle_of_toDouble {d : Decimal} {negative : Bool} {units : Nat}
    {h : Representable units} (hd : d.toDouble = .finite negative units h)
    (hne : units ≠ topUnits) : d.UpToMiddle := by
  have hunits : units < topUnits := Nat.lt_of_le_of_ne h.le_topUnits hne
  have hround : Double.roundUnits (d.digits * Nat.pow 10 d.exponent.toNat * unitsPerOne)
      (Nat.pow 10 (-d.exponent).toNat) = units := by
    rw [toDouble_eq, Double.ofRatio] at hd
    split at hd
    · injection hd
    · cases hd
  by_contra hover
  have hle : (Scaled.middle + 1) * unitsPerOne * Nat.pow 10 (-d.exponent).toNat ≤
      d.digits * Nat.pow 10 d.exponent.toNat * unitsPerOne * 1 := by
    rw [Nat.mul_one, Nat.mul_right_comm]
    exact Nat.mul_le_mul_right _ (Nat.le_of_not_lt hover)
  have hpow : 0 < Nat.pow 10 (-d.exponent).toNat := Nat.pow_pos (by decide)
  have htop := Double.roundUnits_le_of_mul_le Nat.one_pos hpow hle
  rw [hround] at htop
  have hmiddle := Scaled.topUnits_le_roundUnits
  omega

end Decimal

/-- A numeral is read by scaling as a finite double, if its exponent is not positive, or it spells a
number up to the middle; a word has to hold its whole part. -/
theorem Scaled.isFinite_read (negative : Bool) {whole frac : List Char} {exponent : Int}
    (hwhole : Numeral.natValue whole < wordLimit)
    (h : exponent ≤ 0 ∨
      Decimal.UpToMiddle ⟨negative, Numeral.natValue (whole ++ frac), exponent - frac.length⟩) :
    (read negative whole frac exponent).isFinite = true := by
  have happend : Numeral.natValue (whole ++ frac) =
      Nat.ofDigitChars 10 frac (Numeral.natValue whole) := Nat.ofDigitChars_append 0
  obtain ⟨hless, hleft, hle⟩ := fill_bounds hwhole frac
  have hfirst : fill 0 whole = (Numeral.natValue whole, 0) := fill_eq hwhole
  unfold read
  rw [hfirst]
  dsimp only
  rw [← happend] at hle
  generalize (fill (Numeral.natValue whole) frac).1 = word at hless hle ⊢
  generalize (fill (Numeral.natValue whole) frac).2 = left at hleft hle ⊢
  refine isFinite_toDouble negative hless fun hpos => ?_
  rcases h with hexponent | hmiddle
  · -- The word itself is bounded, and no power of ten makes it greater.
    have hnone : (exponent + ((0 : Nat) : Int) - (frac.length - left)).toNat = 0 := by omega
    have hlimit : wordLimit ≤ middle := middle_bounds.2.1
    rw [hnone, Nat.pow_eq, Nat.pow_zero, Nat.mul_one]
    omega
  · -- The digits that are left over go into the exponent, so the number becomes no greater.
    have hsum : (exponent + ((0 : Nat) : Int) - (frac.length - left)).toNat +
        (-(exponent - frac.length)).toNat = left + (exponent - frac.length).toNat := by omega
    unfold Decimal.UpToMiddle at hmiddle
    dsimp only at hmiddle
    generalize (exponent + ((0 : Nat) : Int) - (frac.length - left)).toNat = up at hsum ⊢
    generalize (exponent - frac.length).toNat = a at hsum hmiddle
    generalize (-(exponent - frac.length)).toNat = b at hsum hmiddle
    have hpowers : Nat.pow 10 up * Nat.pow 10 b = Nat.pow 10 left * Nat.pow 10 a := by
      simp only [Nat.pow_eq, ← Nat.pow_add, hsum]
    have hlt : word * Nat.pow 10 up * Nat.pow 10 b < (middle + 1) * Nat.pow 10 b := by
      calc word * Nat.pow 10 up * Nat.pow 10 b
          = word * Nat.pow 10 left * Nat.pow 10 a := by
            rw [Nat.mul_assoc, hpowers, Nat.mul_assoc]
        _ ≤ Numeral.natValue (whole ++ frac) * Nat.pow 10 a := Nat.mul_le_mul_right _ hle
        _ < (middle + 1) * Nat.pow 10 b := hmiddle
    have hword : word * Nat.pow 10 up < middle + 1 := Nat.lt_of_mul_lt_mul_right hlt
    omega

end Rulebook
