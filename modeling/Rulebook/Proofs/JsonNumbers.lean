import Rulebook.Json.Draft
import Rulebook.Proofs.JsonNumerals
import Rulebook.Proofs.Scaling

/-!
# Numbers in a JSON text

A number ends in front of a comma or the end of a container as it would at the end of the text, and
so it is cut off as it is read alone. `Number.ReadsBack` says of a number that its own text is read
as the number; an integer always reads back (`Number.readsBack_integer`). The text of a double can
be read as a neighbour of it, but it is read as a finite double always (`Number.exists_readsAs`).
-/

namespace Rulebook.Json

namespace Token

open Text

/-! ## The parts of a number -/

/-- Nothing follows, or something that ends a value. -/
def Ends (rest : List Char) : Prop := ∀ c ∈ rest.head?, c = ',' ∨ c = ']' ∨ c = '\x7d'

/-- What ends a value does not go on with a digit. -/
theorem Ends.noDigitFirst {rest : List Char} (h : Ends rest) : Numeral.NoDigitFirst rest := by
  intro c hc
  rcases h c hc with rfl | rfl | rfl <;> rfl

/-- A fraction part is the same in front of an end. -/
theorem fraction?_append {cs rest frac after : List Char} (ends : Ends rest)
    (h : fraction? cs = some (frac, after)) :
    fraction? (cs ++ rest) = some (frac, after ++ rest) := by
  unfold fraction? at h
  split at h
  · next cs =>
    obtain ⟨htake, hdrop⟩ := Numeral.takeWhile_append_of_noDigitFirst cs ends.noDigitFirst
    split at h
    · cases h
    · next hdigits =>
      cases h
      rw [List.cons_append, fraction?, htake, hdrop, if_neg hdigits]
  · next hpoint =>
    cases h
    -- There is no point, and what ends a value is none either.
    cases cs with
    | nil =>
      cases rest with
      | nil => rfl
      | cons c rest =>
        rcases ends c rfl with rfl | rfl | rfl <;> rfl
    | cons c cs =>
      have hc : c ≠ '.' := by
        rintro rfl
        exact hpoint cs rfl
      unfold fraction?
      split
      · next heq => exact absurd (List.cons.inj heq).1 hc
      · rfl

/-- A sign is the same in front of an end. -/
theorem sign_append {cs rest : List Char} (ends : Ends rest) :
    Numeral.sign (cs ++ rest) = ((Numeral.sign cs).1, (Numeral.sign cs).2 ++ rest) := by
  cases cs with
  | nil =>
    cases rest with
    | nil => rfl
    | cons c rest =>
      rcases ends c rfl with rfl | rfl | rfl <;> rfl
  | cons c cs =>
    by_cases hminus : c = '-'
    · subst hminus
      rfl
    · by_cases hplus : c = '+'
      · subst hplus
        rfl
      · simp [Numeral.sign, hminus, hplus]

/-- An exponent part is the same in front of an end. -/
theorem exponent?_append {cs rest after : List Char} {exponent : Option Int} (ends : Ends rest)
    (h : exponent? cs = some (exponent, after)) :
    exponent? (cs ++ rest) = some (exponent, after ++ rest) := by
  cases cs with
  | nil =>
    cases h
    cases rest with
    | nil => rfl
    | cons c rest =>
      rcases ends c rfl with rfl | rfl | rfl <;> rfl
  | cons c cs =>
    rw [exponent?] at h
    rw [List.cons_append, exponent?]
    split at h
    · next hletter =>
      obtain ⟨htake, hdrop⟩ :=
        Numeral.takeWhile_append_of_noDigitFirst (Numeral.sign cs).2 ends.noDigitFirst
      dsimp only at h
      split at h
      · cases h
      · next hdigits =>
        cases h
        rw [if_pos hletter]
        simp only [sign_append ends, htake, hdrop, hdigits]
        rfl
    · next hletter =>
      cases h
      rw [if_neg hletter, List.cons_append]

/-- A number is the same in front of an end. -/
theorem unsigned?_append {negative : Bool} {cs rest after : List Char} {t : Token}
    (ends : Ends rest) (h : unsigned? negative cs = some (t, after)) :
    unsigned? negative (cs ++ rest) = some (t, after ++ rest) := by
  obtain ⟨htake, hdrop⟩ := Numeral.takeWhile_append_of_noDigitFirst cs ends.noDigitFirst
  unfold unsigned? at h ⊢
  rw [htake, hdrop]
  dsimp only at h ⊢
  split at h
  · cases h
  · next hwhole =>
    obtain ⟨⟨frac, behind⟩, hfraction, h⟩ := Option.bind_eq_some_iff.1 h
    obtain ⟨⟨exponent, behind'⟩, hexponent, h⟩ := Option.bind_eq_some_iff.1 h
    cases h
    rw [if_neg hwhole, fraction?_append ends hfraction]
    simp only [Option.bind_eq_bind, Option.bind_some, exponent?_append ends hexponent]
    rfl

/-- What follows a sign is the end of the text. -/
theorem sign_suffix (cs : List Char) : (Numeral.sign cs).2 <:+ cs := by
  unfold Numeral.sign
  split
  · exact List.suffix_cons _ _
  · exact List.suffix_cons _ _
  · exact List.suffix_refl _

/-- A number has a digit, and what follows it is the end of what follows its first digits. -/
theorem suffix_of_unsigned? {negative : Bool} {cs after : List Char} {t : Token}
    (h : unsigned? negative cs = some (t, after)) :
    (∃ n, t = .number n) ∧ cs.takeWhile isAsciiDigit ≠ [] ∧
      after <:+ cs.dropWhile isAsciiDigit := by
  unfold unsigned? at h
  dsimp only at h
  split at h
  · cases h
  · next hwhole =>
    obtain ⟨⟨frac, behind⟩, hfraction, h⟩ := Option.bind_eq_some_iff.1 h
    obtain ⟨⟨exponent, behind'⟩, hexponent, h⟩ := Option.bind_eq_some_iff.1 h
    cases h
    have hbehind : behind <:+ cs.dropWhile isAsciiDigit := by
      unfold fraction? at hfraction
      split at hfraction
      · next hpoint =>
        split at hfraction
        · cases hfraction
        · cases hfraction
          rw [hpoint]
          exact (List.dropWhile_suffix _).trans (List.suffix_cons _ _)
      · cases hfraction
        exact List.suffix_refl _
    -- An exponent part takes its letter, a sign and digits off the front.
    have hafter : behind' <:+ behind := by
      cases behind with
      | nil =>
        cases hexponent
        exact List.suffix_refl _
      | cons c cs =>
        rw [exponent?] at hexponent
        split at hexponent
        · dsimp only at hexponent
          split at hexponent
          · cases hexponent
          · cases hexponent
            exact ((List.dropWhile_suffix _).trans (sign_suffix _)).trans (List.suffix_cons _ _)
        · cases hexponent
          exact List.suffix_refl _
    refine ⟨⟨_, rfl⟩, fun hnil => hwhole (.inl ?_), hafter.trans hbehind⟩
    rw [hnil]
    rfl

/-! ## The characters of a number -/

/-- A character of the text of a number. -/
def isNumberChar (c : Char) : Bool := isAsciiDigit c || "-+.e".toList.contains c

/-- A token that starts with a character of a number is a number; only a minus is taken off it. -/
theorem next?_of_isNumberChar {c : Char} (h : isNumberChar c = true) (hminus : c ≠ '-')
    (cs : List Char) : next? c cs = unsigned? false (c :: cs) := by
  unfold next?
  split
  all_goals first
    | rfl
    | exact absurd rfl hminus
    | exact absurd h (by decide)

/-- A digit is a character of a number. -/
theorem isNumberChar_of_mem_toDigits {n : Nat} {c : Char} (h : c ∈ Nat.toDigits 10 n) :
    isNumberChar c = true := by
  rw [isNumberChar, Numeral.isAsciiDigit_of_mem_toDigits h, Bool.true_or]

/-- The parts of a number are made of characters of a number. -/
theorem Numeric.isNumberChar_of_mem_chars {n : Numeric} {c : Char} (h : c ∈ n.chars) :
    isNumberChar c = true := by
  have hdigit (h : isAsciiDigit c = true) : isNumberChar c = true := by
    rw [isNumberChar, h, Bool.true_or]
  rw [chars, List.mem_append, List.mem_append] at h
  rcases h with h | h | h
  · exact hdigit (n.isAsciiDigit_of_mem_whole c h)
  · unfold fractionChars at h
    split at h
    · cases h
    · rcases List.mem_cons.1 h with rfl | h
      · decide
      · exact hdigit (n.isAsciiDigit_of_mem_frac c h)
  · cases hexponent : n.exponent with
    | none =>
      rw [hexponent] at h
      cases h
    | some e =>
      rw [hexponent] at h
      rcases List.mem_cons.1 h with rfl | h
      · decide
      · rcases List.mem_cons.1 h with rfl | h
        · split <;> decide
        · exact isNumberChar_of_mem_toDigits h

end Token

/-- The text of a number is made of characters of a number. -/
theorem Number.isNumberChar_of_mem_chars {n : Number} {c : Char} (h : c ∈ n.chars) :
    Token.isNumberChar c = true := by
  obtain ⟨negative, m, hchars⟩ := n.exists_numeric
  rw [hchars] at h
  rcases List.mem_append.1 h with h | h
  · split at h
    · rw [List.mem_singleton.1 h]
      decide
    · cases h
  · exact m.isNumberChar_of_mem_chars h

/-! ## Reading a number alone -/

/-- The text of a number alone is read as a number. -/
def Number.ReadsAs (n m : Number) : Prop := read? n.chars = some (.number m)

/-- The text of a number alone is read as the number. -/
def Number.ReadsBack (n : Number) : Prop := read? n.chars = some (.number n)

/-- The number that the text of a number alone is read as, if it is read as one. -/
def Number.reread (n : Number) : Number :=
  match read? n.chars with
  | some (.number m) => m
  | _ => n

/-- The text of a number that is read as a number is read as that. -/
theorem Number.ReadsAs.reread_eq {n m : Number} (h : n.ReadsAs m) : n.reread = m := by
  unfold ReadsAs at h
  unfold reread
  rw [h]

/-- Two numbers are the same if they are equal integers, or doubles with the same sign and the same
units. -/
def Number.isSame : Number → Number → Bool
  | .integer i _, .integer j _ => i == j
  | .real negative units _, .real negative' units' _ => negative == negative' && units == units'
  | _, _ => false

/-- Numbers that are the same are equal. -/
theorem Number.eq_of_isSame {m n : Number} (h : m.isSame n = true) : m = n := by
  cases m with
  | integer i _ =>
    cases n with
    | integer j _ =>
      obtain rfl := eq_of_beq h
      rfl
    | real negative units _ => cases h
  | real negative units _ =>
    cases n with
    | integer j _ => cases h
    | real negative' units' _ =>
      obtain ⟨hnegative, hunits⟩ := Bool.and_eq_true_iff.1 h
      obtain rfl := eq_of_beq hnegative
      obtain rfl := eq_of_beq hunits
      rfl

/-- A number reads back if what is read is a number and the same. -/
theorem Number.readsBack_of_isSame {n : Number}
    (h : (match read? n.chars with
      | some (.number m) => m.isSame n
      | _ => false) = true) : n.ReadsBack := by
  rw [ReadsBack]
  split at h
  · next hread =>
    rw [hread, eq_of_isSame h]
  · cases h

namespace Token

/-- A character of a number is no space. -/
theorem isSpace_of_isNumberChar {c : Char} (h : isNumberChar c = true) : isSpace c = false := by
  -- There are four spaces, and none of them is in the text of a number.
  rw [← Bool.not_eq_true]
  intro hspace
  simp only [isSpace, Bool.or_eq_true, decide_eq_true_eq] at hspace
  rcases hspace with ((rfl | rfl) | rfl) | rfl <;> exact absurd h (by decide)

/-- Reading is over when something follows a whole value. -/
theorem foldl_step_trailing (d : Draft) (ts : List Token) :
    ts.foldl Draft.step (.trailing d) = .trailing d := by
  induction ts with
  | nil => rfl
  | cons t ts ih => exact ih

/-- Nothing has no tokens. -/
theorem scan_nil (steps : Nat) : scan steps [] = [] := by
  cases steps <;> rfl

/-- A token that starts with a character of a number is a number, and what follows it is the end of
the text. -/
theorem suffix_of_next? {c : Char} {cs after : List Char} {t : Token}
    (hc : isNumberChar c = true) (h : next? c cs = some (t, after)) :
    (∃ n, t = .number n) ∧ after <:+ cs := by
  by_cases hminus : c = '-'
  · subst hminus
    obtain ⟨hnumber, -, hafter⟩ := suffix_of_unsigned? h
    exact ⟨hnumber, hafter.trans (List.dropWhile_suffix _)⟩
  · rw [next?_of_isNumberChar hc hminus] at h
    obtain ⟨hnumber, hdigits, hafter⟩ := suffix_of_unsigned? h
    rw [List.takeWhile_cons] at hdigits
    rw [List.dropWhile_cons] at hafter
    split at hafter
    · exact ⟨hnumber, hafter.trans (List.dropWhile_suffix _)⟩
    · next hdigit =>
      rw [if_neg hdigit] at hdigits
      exact absurd rfl hdigits

/-- A step in front of no space takes a token, or ends where there is none. -/
theorem scan_cons {c : Char} (h : isSpace c = false) (steps : Nat) (cs : List Char) :
    scan (steps + 1) (c :: cs) =
      match next? c cs with
      | none => [.bad]
      | some (t, rest) => t :: scan steps rest := by
  rw [scan, h]
  exact if_neg Bool.false_ne_true

/-- A text that does not start with a space has a token. -/
theorem exists_scan_eq_cons {c : Char} {cs : List Char} {steps : Nat} (h : isSpace c = false) :
    ∃ t ts, scan (steps + 1) (c :: cs) = t :: ts := by
  rw [scan_cons h]
  split
  · exact ⟨_, _, rfl⟩
  · exact ⟨_, _, rfl⟩

/-- A text of characters of a number is read as a number if and only if it is that one token. -/
theorem read?_eq_number_iff {c : Char} {cs : List Char} {n : Number}
    (hall : ∀ d ∈ c :: cs, isNumberChar d = true) :
    read? (c :: cs) = some (.number n) ↔ next? c cs = some (.number (some n), []) := by
  obtain ⟨hc, hcs⟩ := List.forall_mem_cons.1 hall
  unfold read? Draft.readText Draft.readTokens ofText
  rw [List.length_cons, scan_cons (isSpace_of_isNumberChar hc)]
  constructor
  · intro h
    cases hnext : next? c cs with
    | none =>
      rw [hnext] at h
      cases h
    | some p =>
      obtain ⟨t, after⟩ := p
      -- The token is a number; what is left decides whether it is the only one.
      obtain ⟨⟨m, rfl⟩, hsuffix⟩ := suffix_of_next? hc hnext
      rw [hnext] at h
      dsimp only at h
      cases after with
      | nil =>
        rw [scan_nil] at h
        cases m with
        | none => cases h
        | some m =>
          cases h
          rfl
      | cons d ds =>
        -- A second token would stand behind the number, and that is not the whole text.
        have hd := isSpace_of_isNumberChar (hcs d (hsuffix.subset List.mem_cons_self))
        obtain ⟨k, hk⟩ : ∃ k, cs.length = k + 1 :=
          Nat.exists_eq_add_of_le' (Nat.le_trans (Nat.le_add_left 1 _) hsuffix.length_le)
        obtain ⟨t, ts, hscan⟩ := @exists_scan_eq_cons d ds k hd
        have hover := foldl_step_trailing (.number m) ts
        rw [hk, hscan, List.foldl_cons, List.foldl_cons] at h
        simp only [Draft.step, Draft.openValue, Draft.place, hover] at h
        cases h
  · intro hnext
    rw [hnext]
    dsimp only
    rw [scan_nil]
    rfl

end Token

/-- The text of a number that is read as a number is one token. -/
theorem Number.ReadsAs.exists_next? {n m : Number} (h : n.ReadsAs m) :
    ∃ c cs, n.chars = c :: cs ∧ Token.isNumberChar c = true ∧
      Token.next? c cs = some (.number (some m), []) := by
  cases hchars : n.chars with
  | nil =>
    rw [ReadsAs, hchars] at h
    cases h
  | cons c cs =>
    have hall : ∀ d ∈ c :: cs, Token.isNumberChar d = true := fun d hd =>
      isNumberChar_of_mem_chars (hchars ▸ hd)
    rw [ReadsAs, hchars, Token.read?_eq_number_iff hall] at h
    exact ⟨c, cs, rfl, hall c List.mem_cons_self, h⟩

/-- A number is read behind its sign. -/
theorem Token.Numeric.read?_chars {n : Numeric} {negative : Bool} {m : Number}
    (hvalue : numberValue negative n.whole n.frac n.exponent = some m) :
    read? ((if negative then ['-'] else []) ++ n.chars) = some (.number m) := by
  have hunsigned := n.unsigned?_chars negative
  have hall : ∀ c ∈ n.chars, isNumberChar c = true := fun c => isNumberChar_of_mem_chars
  rw [hvalue] at hunsigned
  cases negative with
  | true =>
    have hsigned : ∀ c ∈ '-' :: n.chars, isNumberChar c = true :=
      List.forall_mem_cons.2 ⟨by decide, hall⟩
    exact (read?_eq_number_iff hsigned).2 hunsigned
  | false =>
    -- A digit stands in front, so no minus is taken off.
    obtain ⟨c, cs, hwhole⟩ := List.exists_cons_of_ne_nil n.whole_ne_nil
    have hc : Text.isAsciiDigit c = true :=
      n.isAsciiDigit_of_mem_whole c (hwhole ▸ List.mem_cons_self)
    have hminus : c ≠ '-' := by
      rintro rfl
      cases hc
    rw [chars, hwhole, List.cons_append] at hunsigned hall
    rw [← next?_of_isNumberChar (hall c List.mem_cons_self) hminus] at hunsigned
    have hread := (read?_eq_number_iff hall).2 hunsigned
    rwa [chars, hwhole, List.cons_append]

/-! ## Integers -/

/-- A row of digits that a word of 64 bits holds has the value of an integer. -/
theorem Token.numberValue_toDigits {negative : Bool} {n : Nat} (hn : n < Scaled.wordLimit)
    (hzero : negative = true → n ≠ 0) :
    numberValue negative (Nat.toDigits 10 n) [] none =
      Number.ofInt? (if negative then -(n : Int) else n) := by
  unfold numberValue
  dsimp only
  rw [Numeral.natValue_toDigits, if_pos ⟨rfl, rfl, hn⟩, if_neg fun h => hzero h.1 h.2]

/-- An integer reads back. -/
theorem Number.readsBack_integer {i : Int}
    (hi : -0x8000000000000000 ≤ i ∧ i < 0x10000000000000000) : (integer i hi).ReadsBack := by
  have hlimit : i.natAbs < Scaled.wordLimit := by
    unfold Scaled.wordLimit
    omega
  -- Minus zero would be a double, but a negative integer has other digits.
  have hvalue : Token.numberValue (decide (i < 0)) (Nat.toDigits 10 i.natAbs) [] none =
      some (integer i hi) := by
    have hint : (if decide (i < 0) then -(i.natAbs : Int) else i.natAbs) = i := by
      split
      · next h => rw [decide_eq_true_eq] at h; omega
      · next h => rw [decide_eq_true_eq] at h; omega
    rw [Token.numberValue_toDigits hlimit, hint, ofInt?, dif_pos hi]
    intro h
    rw [decide_eq_true_eq] at h
    omega
  have hread := Token.Numeric.read?_chars (n := .ofNat i.natAbs) hvalue
  rw [Token.Numeric.chars_ofNat] at hread
  simpa [ReadsBack, chars, intChars] using hread

/-! ## Doubles -/

/-- A number with a fraction or an exponent is read, if it stands for a decimal up to the middle
between the two greatest doubles. -/
theorem Token.Numeric.Shows.exists_numberValue {n : Numeric} {d : Decimal} (h : n.Shows d)
    (middle : d.UpToMiddle) (negative : Bool) :
    ∃ m, numberValue negative n.whole n.frac n.exponent = some m := by
  have hwhole : Numeral.natValue n.whole < Scaled.wordLimit := by
    have hpow : Nat.pow 10 16 < Scaled.wordLimit := by decide
    have hshort : Nat.pow 10 n.whole.length ≤ Nat.pow 10 16 :=
      Nat.pow_le_pow_right (by decide) h.short
    have hlt := Numeral.natValue_lt n.isAsciiDigit_of_mem_whole
    omega
  have hfinite : (Scaled.read negative n.whole n.frac (n.exponent.getD 0)).isFinite = true := by
    refine Scaled.isFinite_read negative hwhole ?_
    rcases h.spells with hnone | ⟨hdigits, hexponent⟩
    · exact .inl (by rw [hnone]; exact Int.le_refl 0)
    · refine .inr ?_
      rw [hdigits, hexponent]
      exact middle
  have hreal : ¬(n.frac = [] ∧ n.exponent = none ∧
      Numeral.natValue n.whole < Scaled.wordLimit) := fun hinteger =>
    h.real ⟨hinteger.1, hinteger.2.1⟩
  unfold numberValue
  dsimp only
  rw [if_neg hreal]
  cases hread : Scaled.read negative n.whole n.frac (n.exponent.getD 0) with
  | finite _ _ _ => exact ⟨_, rfl⟩
  | nan =>
    rw [hread] at hfinite
    cases hfinite
  | infinite _ =>
    rw [hread] at hfinite
    cases hfinite

/-- The greatest double of either sign is read back. -/
theorem Number.readsBack_top (negative : Bool) :
    (real negative topUnits representable_topUnits).ReadsBack := by
  cases negative with
  | false => exact readsBack_of_isSame (by decide +kernel)
  | true => exact readsBack_of_isSame (by decide +kernel)

/-- Every number is read as a number. -/
theorem Number.exists_readsAs (n : Number) : ∃ m, n.ReadsAs m := by
  cases n with
  | integer i hi => exact ⟨_, readsBack_integer hi⟩
  | real negative units hunits =>
    by_cases htop : units = topUnits
    · -- The shortest decimal of the greatest double is beyond the middle.
      have hback : ∀ h, ReadsBack (real negative topUnits h) := fun _ => readsBack_top negative
      generalize topUnits = top at htop hback
      subst htop
      exact ⟨_, hback hunits⟩
    · obtain ⟨p, hchars, hshows⟩ :=
        Token.Numeric.exists_chars_eq_interchange (exponent_shortest (h := hunits))
      have hmiddle := Decimal.upToMiddle_of_toDouble
        (Double.toDouble_shortest .even negative hunits) htop
      obtain ⟨m, hvalue⟩ := hshows.exists_numberValue hmiddle _
      refine ⟨m, ?_⟩
      rw [ReadsAs, chars, hchars]
      exact Token.Numeric.read?_chars hvalue

/-- A number is read as what it is reread as. -/
theorem Number.readsAs_reread (n : Number) : n.ReadsAs n.reread := by
  obtain ⟨m, h⟩ := n.exists_readsAs
  rwa [h.reread_eq]

/-! ## In front of an end -/

/-- A number that is read as a number is cut off in front of an end. -/
theorem Number.ReadsAs.exists_next?_append {n m : Number} (h : n.ReadsAs m) {rest : List Char}
    (ends : Token.Ends rest) :
    ∃ c cs, n.chars = c :: cs ∧ Token.isSpace c = false ∧
      Token.next? c (cs ++ rest) = some (.number (some m), rest) := by
  obtain ⟨c, cs, hchars, hc, hnext⟩ := h.exists_next?
  refine ⟨c, cs, hchars, Token.isSpace_of_isNumberChar hc, ?_⟩
  by_cases hminus : c = '-'
  · subst hminus
    exact Token.unsigned?_append ends hnext
  · rw [Token.next?_of_isNumberChar hc hminus] at hnext ⊢
    exact Token.unsigned?_append ends hnext

end Rulebook.Json
