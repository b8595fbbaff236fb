import Rulebook.Json.Text
import Rulebook.Json.Token
import Rulebook.Proofs.Numerals

/-!
# The parts of a number in JSON

The text of a number is put together from digits, a fraction part and an exponent part
(`Number.exists_numeric`), and is taken apart again into just these (`Numeric.unsigned?_chars`).
-/

namespace Rulebook.Json.Token

open Text

/-- A number without its sign: digits, digits behind the point if there is one, and the exponent if
there is one. No zero stands in front of another digit. -/
structure Numeric where
  whole : List Char
  frac : List Char
  exponent : Option Int
  whole_ne_nil : whole ≠ []
  length_of_head? : whole.head? = some '0' → whole.length = 1
  isAsciiDigit_of_mem_whole : ∀ c ∈ whole, isAsciiDigit c = true
  isAsciiDigit_of_mem_frac : ∀ c ∈ frac, isAsciiDigit c = true

/-- The letter of an exponent with its sign and its digits. -/
def exponentChars : Option Int → List Char
  | none => []
  | some e => 'e' :: (if e < 0 then '-' else '+') :: Nat.toDigits 10 e.natAbs

/-- The point with the digits behind it; none for no digits. -/
def fractionChars (frac : List Char) : List Char := if frac = [] then [] else '.' :: frac

/-- An exponent part is none, or starts with its letter. -/
theorem head?_exponentChars {exponent : Option Int} {c : Char}
    (h : c ∈ (exponentChars exponent).head?) : c = 'e' := by
  cases exponent with
  | none => cases h
  | some e =>
    cases h
    rfl

/-- An exponent part is taken apart. -/
theorem exponent?_exponentChars (exponent : Option Int) :
    exponent? (exponentChars exponent) = some (exponent, []) := by
  cases exponent with
  | none => rfl
  | some e =>
    have hdigits : ∀ c ∈ Nat.toDigits 10 e.natAbs, isAsciiDigit c = true := fun c =>
      Numeral.isAsciiDigit_of_mem_toDigits
    obtain ⟨htake, hdrop⟩ := takeWhile_append_of_forall hdigits [] (by rintro _ ⟨⟩)
    rw [List.append_nil] at htake hdrop
    have hne : (Nat.toDigits 10 e.natAbs).isEmpty = false := by simp
    have hsign : Numeral.sign ((if e < 0 then '-' else '+') :: Nat.toDigits 10 e.natAbs) =
        (decide (e < 0), Nat.toDigits 10 e.natAbs) := by
      by_cases he : e < 0
      · rw [if_pos he, decide_eq_true he]
        rfl
      · rw [if_neg he, decide_eq_false he]
        rfl
    have hvalue : (if decide (e < 0) then -(e.natAbs : Int) else e.natAbs) = e := by
      split
      · next h => rw [decide_eq_true_eq] at h; omega
      · next h => rw [decide_eq_true_eq] at h; omega
    rw [exponentChars, exponent?, if_pos (.inl rfl), hsign]
    dsimp only
    rw [htake, hdrop, hne, Numeral.natValue_toDigits, hvalue]
    rfl

/-- A fraction part is taken apart in front of an exponent part. -/
theorem fraction?_fractionChars {frac : List Char}
    (digits : ∀ c ∈ frac, isAsciiDigit c = true) (exponent : Option Int) :
    fraction? (fractionChars frac ++ exponentChars exponent) =
      some (frac, exponentChars exponent) := by
  unfold fractionChars
  split
  · next hnil =>
    subst hnil
    cases exponent <;> rfl
  · next hne =>
    obtain ⟨htake, hdrop⟩ := takeWhile_append_of_forall digits (exponentChars exponent)
      fun c hc => by
        rw [head?_exponentChars hc]
        decide
    have hempty : ¬frac.isEmpty = true := by simpa using hne
    rw [List.cons_append, fraction?, htake, hdrop, if_neg hempty]

namespace Numeric

/-- The text of a number without its sign. -/
def chars (n : Numeric) : List Char :=
  n.whole ++ (fractionChars n.frac ++ exponentChars n.exponent)

/-- A number is taken apart into its parts. -/
theorem unsigned?_chars (n : Numeric) (negative : Bool) :
    unsigned? negative n.chars =
      some (.number (numberValue negative n.whole n.frac n.exponent), []) := by
  -- Behind the digits stands a point, the letter of an exponent, or nothing.
  have hstops : ∀ c ∈ (fractionChars n.frac ++ exponentChars n.exponent).head?,
      isAsciiDigit c = false := by
    intro c hc
    unfold fractionChars at hc
    split at hc
    · rw [head?_exponentChars hc]
      decide
    · cases hc
      decide
  obtain ⟨htake, hdrop⟩ := takeWhile_append_of_forall n.isAsciiDigit_of_mem_whole _ hstops
  have hwhole : ¬(n.whole.isEmpty = true ∨ n.whole.length ≠ 1 ∧ n.whole.head? = some '0') := by
    rintro (hempty | ⟨hlength, hhead⟩)
    · exact n.whole_ne_nil (List.isEmpty_iff.1 hempty)
    · exact hlength (n.length_of_head? hhead)
  have hfraction := fraction?_fractionChars n.isAsciiDigit_of_mem_frac n.exponent
  unfold unsigned?
  rw [chars, htake, hdrop]
  dsimp only
  rw [if_neg hwhole, hfraction]
  dsimp only [Option.bind_eq_bind, Option.bind_some]
  rw [exponent?_exponentChars]
  rfl

/-- The parts of a natural number. -/
def ofNat (n : Nat) : Numeric where
  whole := Nat.toDigits 10 n
  frac := []
  exponent := none
  whole_ne_nil := Nat.toDigits_ne_nil
  length_of_head? := Numeral.length_toDigits_of_head?
  isAsciiDigit_of_mem_whole _ := Numeral.isAsciiDigit_of_mem_toDigits
  isAsciiDigit_of_mem_frac := by rintro _ ⟨⟩

/-- A natural number is its digits. -/
theorem chars_ofNat (n : Nat) : (ofNat n).chars = Nat.toDigits 10 n := List.append_nil _

/-! ## The text of a double -/

/-- What the parts of a text have to do with the decimal that it stands for: there is a fraction or
an exponent, the whole part is short, and with an exponent the parts spell the decimal. -/
structure Shows (n : Numeric) (d : Decimal) : Prop where
  real : ¬(n.frac = [] ∧ n.exponent = none)
  short : n.whole.length ≤ 16
  spells : n.exponent = none ∨ Numeral.natValue (n.whole ++ n.frac) = d.digits ∧
    n.exponent.getD 0 - n.frac.length = d.exponent

/-- The plain form of a decimal up to `10^16` has parts. -/
theorem exists_chars_eq_positional {d : Decimal} (hzero : d.digits = 0 → d.exponent = 0)
    (hshort : d.digits = 0 ∨ d.pointAt ≤ 16) :
    ∃ n : Numeric, d.positional ['.', '0'] = d.signChars ++ n.chars ∧ n.Shows d := by
  obtain ⟨n, -, hchars, -, hhead, hlength⟩ :=
    Numeral.Plain.exists_positional_eq ['.', '0'] d
  have hpointAt : d.pointAt ≤ 16 := by
    rcases hshort with h | h
    · have hdigitChars : d.digitChars = ['0'] := by
        rw [Decimal.digitChars, h, Nat.toDigits_zero]
      rw [Decimal.pointAt, hdigitChars, hzero h]
      decide
    · exact h
  rw [hchars]
  by_cases hfrac : n.frac = []
  · -- An integer has a zero behind the point.
    refine ⟨⟨n.whole, ['0'], none, n.whole_ne_nil, hhead hzero, n.isAsciiDigit_of_mem_whole,
      List.forall_mem_singleton.2 (by decide)⟩, ?_, ⟨by simp, by dsimp only; omega, .inl rfl⟩⟩
    rw [if_pos hfrac]
    rfl
  · refine ⟨⟨n.whole, n.frac, none, n.whole_ne_nil, hhead hzero, n.isAsciiDigit_of_mem_whole,
      n.isAsciiDigit_of_mem_frac⟩, ?_, ⟨fun h => hfrac h.1, by dsimp only; omega, .inl rfl⟩⟩
    rw [if_neg hfrac, chars, exponentChars, List.append_nil, fractionChars, Numeral.Plain.fracChars]

/-- The form of a decimal with an exponent has parts. -/
theorem exists_chars_eq_scientific (d : Decimal) :
    ∃ n : Numeric, d.scientific = d.signChars ++ n.chars ∧ n.Shows d := by
  have hdigits : ∀ c ∈ d.digitChars, isAsciiDigit c = true :=
    fun c hc => Numeral.isAsciiDigit_of_mem_toDigits hc
  have hlength : 0 < d.digitChars.length := List.length_pos_iff.2 Nat.toDigits_ne_nil
  have hone : (d.digitChars.take 1).length = 1 := by
    rw [List.length_take]
    omega
  refine ⟨⟨d.digitChars.take 1, d.digitChars.drop 1, some (d.pointAt - 1), ?_, fun _ => hone,
    fun c hc => hdigits c (List.mem_of_mem_take hc),
    fun c hc => hdigits c (List.mem_of_mem_drop hc)⟩, ?_, ⟨by simp, ?_, .inr ⟨?_, ?_⟩⟩⟩
  · rw [← List.length_pos_iff]
    omega
  · unfold Decimal.scientific chars
    dsimp only
    generalize d.digitChars.drop 1 = frac
    cases frac <;> simp [fractionChars, exponentChars]
  · rw [hone]
    decide
  · rw [List.take_append_drop]
    exact Numeral.natValue_toDigits d.digits
  · rw [List.length_drop, Option.getD_some, Decimal.pointAt]
    omega

/-- The interchange form of a decimal has parts. -/
theorem exists_chars_eq_interchange {d : Decimal} (hzero : d.digits = 0 → d.exponent = 0) :
    ∃ n : Numeric, d.interchange = d.signChars ++ n.chars ∧ n.Shows d := by
  unfold Decimal.interchange
  split
  · next h => exact exists_chars_eq_positional hzero (h.imp_right fun h => by omega)
  · exact exists_chars_eq_scientific d

end Numeric

end Token

/-- The shortest decimal without digits has no exponent. -/
theorem exponent_shortest {tie : Tie} {negative : Bool} {units : Nat} {h : Representable units}
    (hzero : (Double.shortest tie negative units h).digits = 0) :
    (Double.shortest tie negative units h).exponent = 0 := by
  have hread := Double.toDouble_shortest tie negative h
  rw [Decimal.toDouble, if_pos hzero, Double.ofRatio_one _ representable_zero] at hread
  injection hread with _ hunits
  subst hunits
  rfl

/-- The text of a number is a sign, if it is negative, and parts. -/
theorem Number.exists_numeric (n : Number) :
    ∃ (negative : Bool) (m : Token.Numeric),
      n.chars = (if negative then ['-'] else []) ++ m.chars := by
  cases n with
  | integer i hi =>
    refine ⟨decide (i < 0), .ofNat i.natAbs, ?_⟩
    rw [Token.Numeric.chars_ofNat, chars, intChars]
    simp
  | real negative units hunits =>
    obtain ⟨m, hm, -⟩ := Token.Numeric.exists_chars_eq_interchange (exponent_shortest (h := hunits))
    exact ⟨_, m, hm⟩

end Rulebook.Json
