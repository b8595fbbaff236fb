import Rulebook.Number.Shortest
import Rulebook.Proofs.Doubles

/-!
# Decimals that are read back

The double nearest to a fraction depends on its value alone, not on how far it is reduced, and
`Decimal.toDouble` is the double nearest to the decimal (`Decimal.toDouble_eq`): the bounds beyond
which it does not compute the power are ones beyond which rounding ends at an infinity or a zero.
So zeros move between the digits and the exponent without a change
(`Decimal.toDouble_mul_pow_ten`), and the shortest decimal of a double is read back as the double
(`Double.toDouble_shortest`).
-/

namespace Rulebook

/-! ## Fractions of the same value -/

/-- Rounding depends on the value of a fraction. -/
theorem roundHalfEven_mul_left {k : Nat} (hk : 0 < k) (num den : Nat) :
    roundHalfEven (k * num) (k * den) = roundHalfEven num den := by
  have hmod : k * num % (k * den) = k * (num % den) := Nat.mul_mod_mul_left k num den
  have hdiv : k * num / (k * den) = num / den := Nat.mul_div_mul_left num den hk
  have hbelow : 2 * (k * (num % den)) < k * den ↔ 2 * (num % den) < den := by
    rw [Nat.mul_left_comm]
    exact Nat.mul_lt_mul_left hk
  have habove : k * den < 2 * (k * (num % den)) ↔ den < 2 * (num % den) := by
    rw [Nat.mul_left_comm]
    exact Nat.mul_lt_mul_left hk
  unfold roundHalfEven
  rw [hmod, hdiv]
  simp only [hbelow, habove]

/-- Rounding does not move a quotient down. -/
theorem div_le_roundHalfEven (num den : Nat) : num / den ≤ roundHalfEven num den := by
  unfold roundHalfEven
  split
  · exact Nat.le_refl _
  · split
    · exact Nat.le_succ _
    · exact Nat.le_add_right _ _

namespace Double

/-- Rounding to the bits of a significand depends on the value of a fraction. -/
theorem roundUnits_mul_left {k : Nat} (hk : 0 < k) (num den : Nat) :
    roundUnits (k * num) (k * den) = roundUnits num den := by
  have hdiv : k * num / (k * den) = num / den := Nat.mul_div_mul_left num den hk
  unfold roundUnits excess
  rw [hdiv, Nat.mul_assoc, roundHalfEven_mul_left hk]

/-- Fractions that are rounded to the same units are rounded to the same double. -/
theorem ofRatio_congr (negative : Bool) {num den num' den' : Nat}
    (h : roundUnits num den = roundUnits num' den') :
    ofRatio negative num den = ofRatio negative num' den' := by
  unfold ofRatio
  simp only [h]

/-- The nearest double depends on the value of a fraction. -/
theorem ofRatio_eq_of_mul_eq (negative : Bool) {num den num' den' : Nat} (hden : 0 < den)
    (hden' : 0 < den') (h : num * den' = num' * den) :
    ofRatio negative num den = ofRatio negative num' den' := by
  apply ofRatio_congr
  calc roundUnits num den
      = roundUnits (den' * num) (den' * den) := (roundUnits_mul_left hden' num den).symm
    _ = roundUnits (den * num') (den * den') := by
        rw [Nat.mul_comm den' num, h, Nat.mul_comm num' den, Nat.mul_comm den' den]
    _ = roundUnits num' den' := roundUnits_mul_left hden num' den'

/-- A fraction of less than half a unit is rounded to zero. -/
theorem roundUnits_eq_zero {num den : Nat} (h : 2 * num < den) : roundUnits num den = 0 := by
  have hlt : num < den := by omega
  have hexcess : excess num den = 0 := by
    rw [excess, Nat.div_eq_of_lt hlt]
    rfl
  unfold roundUnits
  rw [hexcess]
  change roundHalfEven num (den * 1) * 1 = 0
  rw [Nat.mul_one, Nat.mul_one, roundHalfEven, Nat.mod_eq_of_lt hlt, if_pos h,
    Nat.div_eq_of_lt hlt]

/-- Rounding does not fall below a power of two with more bits than a significand. -/
theorem two_pow_le_roundUnits {n num : Nat} (hn : 52 ≤ n) (h : Nat.pow 2 n ≤ num) :
    Nat.pow 2 n ≤ roundUnits num 1 := by
  have hne : num ≠ 0 := by
    have hpos : 0 < Nat.pow 2 n := Nat.two_pow_pos n
    omega
  have hlog : n ≤ num.log2 := (Nat.le_log2 hne).2 h
  have hsum : 52 + (num.log2 - 52) = num.log2 := by omega
  have htop : Nat.pow 2 52 * Nat.pow 2 (num.log2 - 52) = Nat.pow 2 num.log2 := by
    rw [Nat.pow_eq, Nat.pow_eq, Nat.pow_eq, ← Nat.pow_add, hsum]
  -- The significand keeps its highest bit.
  have hdiv : Nat.pow 2 52 ≤ num / Nat.pow 2 (num.log2 - 52) := by
    rw [Nat.le_div_iff_mul_le (k := Nat.pow 2 _) (Nat.two_pow_pos _), htop]
    exact Nat.log2_self_le hne
  unfold roundUnits excess
  rw [Nat.div_one, Nat.one_mul]
  calc Nat.pow 2 n
      ≤ Nat.pow 2 num.log2 := Nat.pow_le_pow_right Nat.two_pos hlog
    _ = Nat.pow 2 52 * Nat.pow 2 (num.log2 - 52) := htop.symm
    _ ≤ num / Nat.pow 2 (num.log2 - 52) * Nat.pow 2 (num.log2 - 52) :=
        Nat.mul_le_mul_right _ hdiv
    _ ≤ roundHalfEven num (Nat.pow 2 (num.log2 - 52)) * Nat.pow 2 (num.log2 - 52) :=
        Nat.mul_le_mul_right _ (div_le_roundHalfEven _ _)

/-- A count of units from the overflow bound on is rounded to an infinity. -/
theorem ofRatio_eq_infinite (negative : Bool) {num : Nat} (h : overflowUnits ≤ num) :
    ofRatio negative num 1 = .infinite negative := by
  have hround : overflowUnits ≤ roundUnits num 1 := by
    have hexponent : 52 ≤ 2098 := by decide
    unfold overflowUnits at h ⊢
    -- With a closed exponent the power would be computed.
    generalize 2098 = n at h hexponent ⊢
    exact two_pow_le_roundUnits hexponent h
  rw [ofRatio, dif_neg (Nat.not_lt.2 hround)]

end Double

/-! ## The double nearest to a decimal -/

/-- A decimal above the bound reaches the first power of two that is no finite double. -/
theorem overflowUnits_le {exponent : Nat} (h : 309 < exponent) {digits : Nat} (hd : digits ≠ 0) :
    overflowUnits ≤ digits * Nat.pow 10 exponent * unitsPerOne := by
  have hpowers : Nat.pow 2 1024 ≤ Nat.pow 10 310 := by decide +kernel
  have hexponent : 310 ≤ exponent := h
  have hsum : 2098 = 1024 + 1074 := rfl
  unfold overflowUnits unitsPerOne
  rw [hsum]
  -- With closed exponents the powers would be computed.
  generalize 1024 = a at hpowers
  generalize 1074 = b
  generalize 310 = c at hpowers hexponent
  have hten : Nat.pow 10 c ≤ Nat.pow 10 exponent := Nat.pow_le_pow_right (by decide) hexponent
  calc Nat.pow 2 (a + b)
      = Nat.pow 2 a * Nat.pow 2 b := Nat.pow_add 2 a b
    _ ≤ Nat.pow 10 exponent * Nat.pow 2 b :=
        Nat.mul_le_mul_right _ (Nat.le_trans hpowers hten)
    _ ≤ digits * Nat.pow 10 exponent * Nat.pow 2 b :=
        Nat.mul_le_mul_right _ (Nat.le_mul_of_pos_left _ (Nat.pos_of_ne_zero hd))

/-- A decimal below the bound is less than half a unit. -/
theorem two_mul_lt_ten_pow {digits exponent : Nat} (h : digits.log2 + 1 + 330 < exponent) :
    2 * (digits * unitsPerOne) < Nat.pow 10 exponent := by
  have hpowers : 2 * Nat.pow 2 1074 ≤ Nat.pow 10 331 := by decide +kernel
  have hdigits : digits < Nat.pow 2 (digits.log2 + 1) := Nat.lt_log2_self
  have hten : Nat.pow 2 (digits.log2 + 1) ≤ Nat.pow 10 (digits.log2 + 1) :=
    Nat.pow_le_pow_left (by decide) _
  unfold unitsPerOne
  have hexponent : digits.log2 + 1 + 331 ≤ exponent := h
  generalize 1074 = b at hpowers
  generalize 331 = c at hpowers hexponent
  generalize digits.log2 + 1 = l at hdigits hten hexponent
  calc 2 * (digits * Nat.pow 2 b)
      = digits * (2 * Nat.pow 2 b) := Nat.mul_left_comm 2 digits _
    _ < Nat.pow 10 l * (2 * Nat.pow 2 b) :=
        Nat.mul_lt_mul_of_pos_right (Nat.lt_of_lt_of_le hdigits hten)
          (Nat.mul_pos Nat.two_pos (Nat.two_pow_pos b))
    _ ≤ Nat.pow 10 l * Nat.pow 10 c := Nat.mul_le_mul_left _ hpowers
    _ = Nat.pow 10 (l + c) := (Nat.pow_add 10 l c).symm
    _ ≤ Nat.pow 10 exponent := Nat.pow_le_pow_right (by decide) hexponent

namespace Decimal

/-- A decimal is read as the double nearest to it, whatever its exponent is. -/
theorem toDouble_eq (d : Decimal) :
    d.toDouble = Double.ofRatio d.negative (d.digits * Nat.pow 10 d.exponent.toNat * unitsPerOne)
      (Nat.pow 10 (-d.exponent).toNat) := by
  have hzero (num den : Nat) (h : 2 * num < den) :
      Double.ofRatio d.negative 0 1 = Double.ofRatio d.negative num den :=
    Double.ofRatio_congr _
      (by rw [Double.roundUnits_eq_zero h, Double.roundUnits_eq_zero (by decide)])
  have hnonpos (h : d.exponent ≤ 0) : Nat.pow 10 d.exponent.toNat = 1 := by
    rw [Int.toNat_eq_zero.2 h, Nat.pow_eq, Nat.pow_zero]
  unfold toDouble
  split
  · next hdigits =>
    apply hzero
    rw [hdigits, Nat.zero_mul, Nat.zero_mul]
    exact Nat.pow_pos (by decide)
  · next hdigits =>
    split
    · next habove =>
      have hden : (-d.exponent).toNat = 0 := by omega
      rw [hden]
      exact (Double.ofRatio_eq_infinite _ (overflowUnits_le (by omega) hdigits)).symm
    · split
      · next hbelow =>
        apply hzero
        rw [hnonpos (by omega), Nat.mul_one]
        exact two_mul_lt_ten_pow (by omega)
      · rfl

/-- Zeros at the end of the digits may as well stand in the exponent. -/
theorem toDouble_mul_pow_ten (negative : Bool) (digits zeros : Nat) (exponent : Int) :
    toDouble ⟨negative, digits * Nat.pow 10 zeros, exponent⟩ =
      toDouble ⟨negative, digits, exponent + zeros⟩ := by
  rw [toDouble_eq, toDouble_eq]
  apply Double.ofRatio_eq_of_mul_eq _ (Nat.pow_pos (by decide)) (Nat.pow_pos (by decide))
  dsimp only
  have hexponents : zeros + exponent.toNat + (-(exponent + zeros)).toNat =
      (exponent + zeros).toNat + (-exponent).toNat := by omega
  generalize exponent.toNat = a at hexponents ⊢
  generalize (-exponent).toNat = b at hexponents ⊢
  generalize (exponent + zeros).toNat = a' at hexponents ⊢
  generalize (-(exponent + zeros)).toNat = b' at hexponents ⊢
  have hpowers :
      Nat.pow 10 zeros * Nat.pow 10 a * Nat.pow 10 b' = Nat.pow 10 a' * Nat.pow 10 b := by
    simp only [Nat.pow_eq, ← Nat.pow_add, hexponents]
  generalize unitsPerOne = u
  calc digits * Nat.pow 10 zeros * Nat.pow 10 a * u * Nat.pow 10 b'
      = digits * (Nat.pow 10 zeros * Nat.pow 10 a * Nat.pow 10 b') * u := by ac_rfl
    _ = digits * (Nat.pow 10 a' * Nat.pow 10 b) * u := by rw [hpowers]
    _ = digits * Nat.pow 10 a' * u * Nat.pow 10 b := by ac_rfl

/-- Taking the zeros off the digits does not change what a decimal is read as. -/
theorem toDouble_stripZeros (d : Decimal) : (Shortest.stripZeros d).toDouble = d.toDouble := by
  fun_induction Shortest.stripZeros d with
  | case1 d hzero ih =>
    have hmul : d.digits / 10 * Nat.pow 10 1 = d.digits :=
      Nat.div_mul_cancel (Nat.dvd_of_mod_eq_zero hzero.2)
    have hshift := toDouble_mul_pow_ten d.negative (d.digits / 10) 1 d.exponent
    rw [hmul] at hshift
    exact ih.trans hshift.symm
  | case2 d hzero => rfl

end Decimal

/-! ## The shortest decimal -/

namespace Double

/-- The exact expansion of a double is read back. -/
theorem toDouble_exact (negative : Bool) {units : Nat} (h : Representable units) :
    Decimal.toDouble ⟨negative, units * Nat.pow 5 1074, -1074⟩ = .finite negative units h := by
  have hpowers (n : Nat) : units * Nat.pow 5 n * Nat.pow 10 0 * Nat.pow 2 n * 1 =
      units * Nat.pow 10 n := by
    have hten : Nat.pow 5 n * Nat.pow 2 n = Nat.pow 10 n := (Nat.mul_pow 5 2 n).symm
    have hone : Nat.pow 10 0 = 1 := rfl
    rw [← hten, hone, Nat.mul_one, Nat.mul_one, Nat.mul_assoc]
  have hup : (-1074 : Int).toNat = 0 := rfl
  have hdown : (-(-1074 : Int)).toNat = 1074 := rfl
  rw [← ofRatio_one negative h, Decimal.toDouble_eq]
  apply ofRatio_eq_of_mul_eq _ (Nat.pow_pos (by decide)) Nat.one_pos
  rw [hup, hdown]
  unfold unitsPerOne
  generalize 1074 = n
  exact hpowers n

/-- The shortest decimal of a double is read back as the double. -/
theorem toDouble_shortest (tie : Tie) (negative : Bool) {units : Nat} (h : Representable units) :
    (shortest tie negative units h).toDouble = .finite negative units h := by
  unfold shortest
  split
  · next hunits =>
    subst hunits
    rw [Decimal.toDouble, if_pos rfl]
    exact ofRatio_one negative h
  · dsimp only
    rw [Decimal.toDouble_stripZeros]
    generalize Shortest.length _ = length
    cases hfound : (List.range 17).findSome? _ with
    | none => exact toDouble_exact negative h
    | some d =>
      -- A candidate is taken only if it is read back.
      obtain ⟨n, -, hgrid⟩ := List.exists_of_findSome?_eq_some hfound
      have hread := List.find?_some hgrid
      exact of_decide_eq_true hread

end Double

end Rulebook
