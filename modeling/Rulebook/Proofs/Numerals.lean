import Rulebook.Number.Layout
import Rulebook.Proofs.Decimals
import Rulebook.Proofs.Digits

/-!
# Plain numerals

A plain numeral has digits in front of its point, if it has one, and no exponent. It is read as the
decimal that its digits spell (`Plain.read?_chars`), and the plain form of every decimal is one
(`exists_chars_eq_positional`). A text that starts with a digit, of any script, is no name of a
special value, so it is read as a decimal or not at all (`read?_of_isDigit`).
-/

namespace Rulebook.Numeral

open Text

/-! ## What starts with a digit -/

/-- The names of special values start with two letters only. -/
theorem named?_eq_none {c : Char} (hn : c.toLower ≠ 'n') (hi : c.toLower ≠ 'i') (negative : Bool)
    (cs : List Char) : named? negative (c :: cs) = none := by
  have hname (name : String) (hhead : name.toList.head? = some 'n' ∨ name.toList.head? = some 'i') :
      String.ofList ((c :: cs).map Char.toLower) ≠ name := by
    rintro rfl
    rw [String.toList_ofList, List.map_cons, List.head?_cons, Option.some.injEq,
      Option.some.injEq] at hhead
    exact hhead.elim hn hi
  rw [named?, if_neg (hname _ (by decide)),
    if_neg (not_or.2 ⟨hname _ (by decide), hname _ (by decide)⟩)]

/-- The name of a special value starts with no digit. -/
theorem named?_of_isDigit {c : Char} (hc : isDigit c = true) (negative : Bool) (cs : List Char) :
    named? negative (c :: cs) = none := by
  have hletter {letter : Char} (h : isDigit letter = false) : c.toLower ≠ letter := by
    rintro rfl
    rw [toLower_of_isDigit hc, hc] at h
    cases h
  exact named?_eq_none (hletter (isDigit_letter 13 (by decide)).2)
    (hletter (isDigit_letter 8 (by decide)).2) negative cs

/-- Behind its sign a text that starts with a digit is read as a decimal or not at all. -/
theorem read?_of_isDigit {c : Char} (hc : isDigit c = true) (negative : Bool) (cs : List Char) :
    Double.read? ((if negative then ['-'] else []) ++ c :: cs) =
      (decimal? negative (c :: cs)).map Decimal.toDouble := by
  have hsign : sign ((if negative then ['-'] else []) ++ c :: cs) = (negative, c :: cs) := by
    cases negative with
    | true => rfl
    | false =>
      have hminus : c ≠ '-' := ne_of_class hc (isDigit_sign (by simp [signs]))
      have hplus : c ≠ '+' := ne_of_class hc (isDigit_sign (by simp [signs]))
      simp [sign, hminus, hplus]
  rw [Double.read?, hsign]
  dsimp only
  rw [named?_of_isDigit hc]
  cases decimal? negative (c :: cs) <;> rfl

/-- An exponent starts with no digit. -/
theorem exponent?_of_isDigit {c : Char} (hc : isDigit c = true) (cs : List Char) :
    exponent? (c :: cs) = none := by
  have hsmall : c ≠ 'e' := ne_of_class hc (isDigit_letter 4 (by decide)).2
  have hcapital : c ≠ 'E' := ne_of_class hc (isDigit_letter 4 (by decide)).1
  exact if_neg (not_or.2 ⟨hsmall, hcapital⟩)

/-! ## Plain numerals -/

/-- A numeral without an exponent. -/
structure Plain where
  negative : Bool
  whole : List Char
  frac : List Char
  whole_ne_nil : whole ≠ []
  isAsciiDigit_of_mem_whole : ∀ c ∈ whole, isAsciiDigit c = true
  isAsciiDigit_of_mem_frac : ∀ c ∈ frac, isAsciiDigit c = true

namespace Plain

/-- The point with the digits behind it; none for an integer. -/
def fracChars (n : Plain) : List Char := if n.frac = [] then [] else '.' :: n.frac

/-- The text of a numeral. -/
def chars (n : Plain) : List Char :=
  (if n.negative then ['-'] else []) ++ (n.whole ++ n.fracChars)

/-- The decimal that a numeral spells. -/
def decimal (n : Plain) : Decimal := ⟨n.negative, natValue (n.whole ++ n.frac), -n.frac.length⟩

/-- The whole part is the longest row of digits in front. -/
theorem takeWhile_whole_append (n : Plain) :
    (n.whole ++ n.fracChars).takeWhile isAsciiDigit = n.whole ∧
      (n.whole ++ n.fracChars).dropWhile isAsciiDigit = n.fracChars := by
  refine takeWhile_append_of_forall n.isAsciiDigit_of_mem_whole _ ?_
  unfold fracChars
  split
  · simp
  · rintro _ ⟨⟩
    decide

/-- The first character behind the sign is a digit. -/
theorem exists_whole_append_eq_cons (n : Plain) :
    ∃ c cs, n.whole ++ n.fracChars = c :: cs ∧ isAsciiDigit c = true := by
  obtain ⟨c, cs, hwhole⟩ := List.exists_cons_of_ne_nil n.whole_ne_nil
  refine ⟨c, cs ++ n.fracChars, by rw [hwhole, List.cons_append], ?_⟩
  exact n.isAsciiDigit_of_mem_whole c (by rw [hwhole]; exact List.mem_cons_self)

/-- The fraction is split off. -/
theorem fraction_fracChars (n : Plain) : fraction n.fracChars = (n.frac, []) := by
  unfold fracChars
  split
  · next hfrac =>
    rw [hfrac]
    rfl
  · have hspan := takeWhile_append_of_forall n.isAsciiDigit_of_mem_frac [] (by simp)
    rw [List.append_nil] at hspan
    rw [fraction, hspan.1, hspan.2]

/-- A plain numeral is read as the decimal that it spells. -/
theorem read?_chars (n : Plain) : Double.read? n.chars = some n.decimal.toDouble := by
  obtain ⟨htake, hdrop⟩ := n.takeWhile_whole_append
  have hdecimal : decimal? n.negative (n.whole ++ n.fracChars) = some n.decimal := by
    rw [decimal?, htake, hdrop, n.fraction_fracChars]
    simp [n.whole_ne_nil, exponent?, decimal]
  obtain ⟨c, cs, heq, hc⟩ := n.exists_whole_append_eq_cons
  rw [heq] at hdecimal
  rw [chars, heq, read?_of_isDigit (isDigit_of_isAsciiDigit hc), hdecimal, Option.map_some]

/-! ## The plain form of a decimal -/

/-- Zeros in front do not change the value of a row of digits. -/
theorem natValue_zeros_append (zeros : Nat) (ds : List Char) :
    natValue (List.replicate zeros '0' ++ ds) = natValue ds := by
  induction zeros with
  | zero => rfl
  | succ zeros ih => exact ih

/-- Zeros behind are powers of ten. -/
theorem natValue_append_zeros (ds : List Char) (zeros : Nat) :
    natValue (ds ++ List.replicate zeros '0') = natValue ds * Nat.pow 10 zeros := by
  have happend : natValue (ds ++ List.replicate zeros '0') =
      Nat.ofDigitChars 10 (List.replicate zeros '0') (natValue ds) :=
    Nat.ofDigitChars_append 0
  rw [happend, Nat.ofDigitChars_replicate_zero, Nat.mul_comm, Nat.pow_eq]

/-- A row of zeros is made of digits. -/
theorem isAsciiDigit_of_mem_replicate {zeros : Nat} {c : Char} (h : c ∈ List.replicate zeros '0') :
    isAsciiDigit c = true := by
  rw [List.eq_of_mem_replicate h]
  decide

/-- With a text behind an integer the plain form of a decimal is the digits of a plain numeral that
is read as the decimal is, and that text where no digits stand behind a point. No zero stands in
front of another digit, unless zero has an exponent, and no more digits than it takes stand in front
of the point. -/
theorem exists_positional_eq (suffix : List Char) (d : Decimal) :
    ∃ n : Plain, n.negative = d.negative ∧
      d.positional suffix =
        d.signChars ++ (n.whole ++ if n.frac = [] then suffix else n.fracChars) ∧
      n.decimal.toDouble = d.toDouble ∧
      ((d.digits = 0 → d.exponent = 0) → n.whole.head? = some '0' → n.whole.length = 1) ∧
      (n.whole.length : Int) ≤ max 1 d.pointAt := by
  have hdigits : ∀ c ∈ d.digitChars, isAsciiDigit c = true :=
    fun c hc => isAsciiDigit_of_mem_toDigits hc
  have hvalue : natValue d.digitChars = d.digits := natValue_toDigits d.digits
  have hne : d.digitChars ≠ [] := Nat.toDigits_ne_nil
  have hlength : 0 < d.digitChars.length := List.length_pos_iff.2 hne
  have hhead (h : d.digitChars.head? = some '0') : d.digits = 0 := eq_zero_of_head?_toDigits h
  have hpoint : d.pointAt = d.digitChars.length + d.exponent := rfl
  unfold Decimal.positional
  dsimp only
  split
  · next hexponent =>
    -- An integer: the zeros that the exponent stands for are behind the digits.
    refine ⟨⟨d.negative, d.digitChars ++ List.replicate d.exponent.toNat '0', [], by simp [hne],
      List.forall_mem_append.2 ⟨hdigits, fun c hc => isAsciiDigit_of_mem_replicate hc⟩,
      by simp⟩, rfl, by simp, ?_, fun hzero hfirst => ?_, ?_⟩
    · have hzeros := Decimal.toDouble_mul_pow_ten d.negative d.digits d.exponent.toNat 0
      have hsum : (0 : Int) + d.exponent.toNat = d.exponent := by omega
      rw [hsum] at hzeros
      rw [decimal, List.append_nil, natValue_append_zeros, hvalue]
      exact hzeros
    · rw [List.head?_append, List.head?_eq_some_head hne, Option.some_or,
        ← List.head?_eq_some_head hne] at hfirst
      have hone : d.digitChars.length = 1 := length_toDigits_of_head? hfirst
      rw [List.length_append, List.length_replicate, hone, hzero (hhead hfirst)]
      rfl
    · rw [List.length_append, List.length_replicate]
      omega
  · next hexponent =>
    split
    · next hinside =>
      -- The point stands among the digits.
      have hfrac : d.digitChars.drop d.pointAt.toNat ≠ [] := by
        rw [← List.length_pos_iff, List.length_drop]
        omega
      refine ⟨⟨d.negative, d.digitChars.take d.pointAt.toNat, d.digitChars.drop d.pointAt.toNat,
        ?_, fun c hc => hdigits c (List.mem_of_mem_take hc),
        fun c hc => hdigits c (List.mem_of_mem_drop hc)⟩, rfl, by simp [fracChars, hfrac], ?_,
        fun hzero hfirst => ?_, ?_⟩
      · rw [← List.length_pos_iff, List.length_take]
        omega
      · have hbehind : -((d.digitChars.drop d.pointAt.toNat).length : Int) = d.exponent := by
          rw [List.length_drop]
          omega
        rw [decimal, List.take_append_drop, hvalue, hbehind]
      · rw [List.head?_take, if_neg (by omega)] at hfirst
        have hnone := hzero (hhead hfirst)
        omega
      · rw [List.length_take]
        omega
    · next houtside =>
      -- All digits stand behind the point, with zeros between them and the point.
      refine ⟨⟨d.negative, ['0'], List.replicate (-d.pointAt).toNat '0' ++ d.digitChars, by simp,
        List.forall_mem_singleton.2 (by decide),
        List.forall_mem_append.2 ⟨fun c hc => isAsciiDigit_of_mem_replicate hc, hdigits⟩⟩, rfl,
        by simp [fracChars, hne], ?_, fun _ _ => rfl, ?_⟩
      · have hbehind : -((List.replicate (-d.pointAt).toNat '0' ++ d.digitChars).length : Int) =
            d.exponent := by
          rw [List.length_append, List.length_replicate]
          omega
        have hzeros : natValue (['0'] ++ (List.replicate (-d.pointAt).toNat '0' ++ d.digitChars)) =
            d.digits :=
          (natValue_zeros_append 1 _).trans ((natValue_zeros_append _ _).trans hvalue)
        rw [decimal, hbehind, hzeros]
      · change ((1 : Nat) : Int) ≤ _
        omega

/-- The plain form of a decimal is a plain numeral and is read as the decimal is. -/
theorem exists_chars_eq_positional (d : Decimal) :
    ∃ n : Plain, n.chars = d.positional [] ∧ n.decimal.toDouble = d.toDouble := by
  obtain ⟨n, hnegative, hchars, hread, -⟩ := exists_positional_eq [] d
  refine ⟨n, ?_, hread⟩
  rw [hchars, chars, hnegative, Decimal.signChars, fracChars]
  cases n.frac <;> rfl

end Plain

end Rulebook.Numeral
