import Rulebook.Proofs.Clauses
import Rulebook.Proofs.Numerals
import Rulebook.Proofs.Written

/-!
# Clauses are split as they are found

A clause is read twice. Its end is found by a reader of quotations and numerals
(`Lexeme.clause?`), and its condition is split off by a second one, which takes all that follows the
comparator for the value and knows nothing of quotes (`Condition.ofClause?`). The two agree: a
`Clause` is what the first reader finds, in parts, and the second reader takes the same parts from
its text, with the literal that the operand stands for (`Clause.splits_as_found`).

There is one exception. A quotation may have a line feed in it, a value may not, and no shorter
comparator helps: the line feed is still in what follows it.
-/

namespace Rulebook

open Text

/-! ## Operands -/

/-- An operand without quotes: a numeral with digits of any script. -/
structure Bare where
  negative : Bool
  whole : List Char
  frac : List Char
  whole_ne_nil : whole ≠ []
  isDigit_of_mem_whole : ∀ c ∈ whole, isDigit c = true
  isDigit_of_mem_frac : ∀ c ∈ frac, isDigit c = true

namespace Bare

/-- The digits of a numeral, on both sides of its point. -/
def digits (n : Bare) : List Char := n.whole ++ n.frac

/-- The point with the digits behind it; none for an integer. -/
def fracChars (n : Bare) : List Char := if n.frac = [] then [] else '.' :: n.frac

/-- The text of a numeral. -/
def chars (n : Bare) : List Char :=
  (if n.negative then ['-'] else []) ++ (n.whole ++ n.fracChars)

/-- Whether the digits are all of the script in which numbers are read. -/
def IsAscii (n : Bare) : Prop := ∀ c ∈ n.digits, isAsciiDigit c = true

instance (n : Bare) : Decidable n.IsAscii := List.decidableBAll _ n.digits

/-- The double nearest to the number that the digits spell. -/
def value (n : Bare) : Double :=
  .ofRatio n.negative (Numeral.natValue n.digits * unitsPerOne) (Nat.pow 10 n.frac.length)

/-- The literal of a numeral: the number, or the text itself if its digits are of another script or
the number is too large for a double. -/
def literal (n : Bare) : Literal :=
  if n.IsAscii ∧ n.value.isFinite = true then .number n.value
  else .text (String.ofList n.chars)

/-- A numeral in ASCII digits as a plain one. -/
def plain (n : Bare) (h : n.IsAscii) : Numeral.Plain where
  negative := n.negative
  whole := n.whole
  frac := n.frac
  whole_ne_nil := n.whole_ne_nil
  isAsciiDigit_of_mem_whole := (List.forall_mem_append.1 h).1
  isAsciiDigit_of_mem_frac := (List.forall_mem_append.1 h).2

/-- A plain numeral as an operand. -/
def ofPlain (n : Numeral.Plain) : Bare where
  negative := n.negative
  whole := n.whole
  frac := n.frac
  whole_ne_nil := n.whole_ne_nil
  isDigit_of_mem_whole c hc := isDigit_of_isAsciiDigit (n.isAsciiDigit_of_mem_whole c hc)
  isDigit_of_mem_frac c hc := isDigit_of_isAsciiDigit (n.isAsciiDigit_of_mem_frac c hc)

/-- The digits of a plain numeral are ASCII ones. -/
theorem isAscii_ofPlain (n : Numeral.Plain) : (ofPlain n).IsAscii :=
  List.forall_mem_append.2 ⟨n.isAsciiDigit_of_mem_whole, n.isAsciiDigit_of_mem_frac⟩

/-- The decimal of a plain numeral is rounded to the value of the operand. -/
theorem toDouble_decimal (n : Numeral.Plain) : n.decimal.toDouble = (ofPlain n).value := by
  have hnum : (-(n.frac.length : Int)).toNat = 0 := by omega
  have hden : (- -(n.frac.length : Int)).toNat = n.frac.length := by omega
  rw [Decimal.toDouble_eq]
  dsimp only [Numeral.Plain.decimal]
  rw [hnum, hden]
  change Double.ofRatio _ (Numeral.natValue _ * 1 * unitsPerOne) _ = _
  rw [Nat.mul_one]
  rfl

/-- The digits with a point among them are a numeral without a sign. -/
theorem isUnsigned (n : Bare) : Lexeme.IsUnsigned (n.whole ++ n.fracChars) := by
  refine .mk n.whole_ne_nil n.isDigit_of_mem_whole ?_
  unfold fracChars
  split
  · exact .none
  · next hfrac => exact .digits hfrac n.isDigit_of_mem_frac

/-- A numeral without a sign is the text of one, with or without a sign in front. -/
theorem exists_chars_eq {text : List Char} (h : Lexeme.IsUnsigned text) (negative : Bool) :
    ∃ n : Bare, n.chars = (if negative then ['-'] else []) ++ text := by
  obtain @⟨whole, frac, ne_nil, isDigit, fraction⟩ := h
  cases fraction with
  | none => exact ⟨⟨negative, whole, [], ne_nil, isDigit, by simp⟩, rfl⟩
  | @digits digits ne_nil' isDigit' =>
    refine ⟨⟨negative, whole, digits, ne_nil, isDigit, isDigit'⟩, ?_⟩
    rw [chars, fracChars, if_neg ne_nil']

end Bare

/-- The value of a clause, as it is written. -/
inductive Operand where
  | quoted (inside : List Char) (noQuote : ∀ c ∈ inside, c ≠ '\'')
  | bare (numeral : Bare)

namespace Operand

/-- The text of an operand. -/
def chars : Operand → List Char
  | .quoted inside _ => '\'' :: (inside ++ ['\''])
  | .bare n => n.chars

/-- The literal that an operand stands for; between quotes it is never a number. -/
def literal : Operand → Literal
  | .quoted inside _ => .text (String.ofList inside)
  | .bare n => n.literal

/-- Whether there is a line feed between the quotes. -/
def HasLineFeed : Operand → Prop
  | .quoted inside _ => '\n' ∈ inside
  | .bare _ => False

/-- The text of an operand is one that is read. -/
theorem isOperand_chars (o : Operand) : Lexeme.IsOperand o.chars := by
  cases o with
  | quoted inside noQuote => exact .quoted noQuote
  | bare n =>
    rw [chars, Bare.chars]
    cases n.negative with
    | true => exact .negative n.isUnsigned
    | false => exact .unsigned n.isUnsigned

/-- What is read as an operand is the text of one. -/
theorem exists_chars_eq {text : List Char} (h : Lexeme.IsOperand text) :
    ∃ o : Operand, o.chars = text := by
  cases h with
  | quoted noQuote => exact ⟨.quoted _ noQuote, rfl⟩
  | unsigned unsigned =>
    obtain ⟨n, hchars⟩ := Bare.exists_chars_eq unsigned false
    exact ⟨.bare n, hchars⟩
  | negative unsigned =>
    obtain ⟨n, hchars⟩ := Bare.exists_chars_eq unsigned true
    exact ⟨.bare n, hchars⟩

/-- The characters of a numeral are its digits, a sign and a point. -/
theorem mem_chars_bare {n : Bare} {c : Char} (h : c ∈ (bare n).chars) :
    c = '-' ∨ c = '.' ∨ isDigit c = true := by
  rw [chars, Bare.chars, Bare.fracChars] at h
  rcases List.mem_append.1 h with hsign | hunsigned
  · split at hsign
    · exact .inl (List.mem_singleton.1 hsign)
    · cases hsign
  · rcases List.mem_append.1 hunsigned with hwhole | hfrac
    · exact .inr (.inr (n.isDigit_of_mem_whole c hwhole))
    · split at hfrac
      · cases hfrac
      · rcases List.mem_cons.1 hfrac with rfl | hfrac
        · exact .inr (.inl rfl)
        · exact .inr (.inr (n.isDigit_of_mem_frac c hfrac))

/-- A line feed is in the text of an operand only between quotes. -/
theorem lineFeed_mem_chars_iff (o : Operand) : '\n' ∈ o.chars ↔ o.HasLineFeed := by
  cases o with
  | quoted inside noQuote => simp [chars, HasLineFeed]
  | bare n =>
    refine ⟨fun hmem => ?_, False.elim⟩
    rcases mem_chars_bare hmem with h | h | h
    · cases h
    · cases h
    · exact absurd rfl (ne_of_class isBlank_space_lineFeed.2 (Lexeme.isBlank_of_isDigit h))

end Operand

/-! ## Literals -/

/-- A text without quotes is what it is without its quotes. -/
theorem filter_ne_quote {cs : List Char} (h : ∀ c ∈ cs, c ≠ '\'') : cs.filter (· ≠ '\'') = cs :=
  List.filter_eq_self.2 fun c hc => decide_eq_true (h c hc)

namespace Bare

/-- Digits of which some are not ASCII leave such a digit where a row of ASCII digits ends. -/
theorem exists_dropWhile_eq_cons {cs : List Char} (isDigit : ∀ c ∈ cs, isDigit c = true)
    (h : ¬ ∀ c ∈ cs, isAsciiDigit c = true) :
    ∃ d ds, cs.dropWhile isAsciiDigit = d :: ds ∧ Text.isDigit d = true := by
  have hne : cs.dropWhile isAsciiDigit ≠ [] := by
    rwa [Ne, List.dropWhile_eq_nil_iff]
  obtain ⟨d, ds, heq⟩ := List.exists_cons_of_ne_nil hne
  have hmem : d ∈ cs.dropWhile isAsciiDigit := by
    rw [heq]
    exact List.mem_cons_self
  exact ⟨d, ds, heq, isDigit d ((List.dropWhile_sublist isAsciiDigit).subset hmem)⟩

/-- A numeral with other digits than ASCII ones is no decimal: one of these digits stands where the
exponent would. -/
theorem decimal?_eq_none {n : Bare} (h : ¬ n.IsAscii) :
    Numeral.decimal? n.negative (n.whole ++ n.fracChars) = none := by
  by_cases hwhole : ∀ c ∈ n.whole, isAsciiDigit c = true
  · have hfrac : ¬ ∀ c ∈ n.frac, isAsciiDigit c = true := fun hfrac =>
      h (List.forall_mem_append.2 ⟨hwhole, hfrac⟩)
    have hne : n.frac ≠ [] := by
      intro hnil
      rw [hnil] at hfrac
      exact hfrac (by simp)
    obtain ⟨d, ds, hdrop, hd⟩ := exists_dropWhile_eq_cons n.isDigit_of_mem_frac hfrac
    obtain ⟨-, hbehind⟩ := takeWhile_append_of_forall hwhole ('.' :: n.frac) (by
      rintro _ ⟨⟩
      decide)
    rw [fracChars, if_neg hne, Numeral.decimal?, hbehind, Numeral.fraction, hdrop]
    dsimp only
    rw [Numeral.exponent?_of_isDigit hd]
    split <;> rfl
  · obtain ⟨d, ds, hdrop, hd⟩ := exists_dropWhile_eq_cons n.isDigit_of_mem_whole hwhole
    obtain ⟨-, hbehind⟩ := takeWhile_append_of_stops (p := isAsciiDigit) n.whole n.fracChars
      fun hnil => by rw [hdrop] at hnil; cases hnil
    have hpoint : d ≠ '.' := ne_of_class hd (isDigit_sign (by simp [signs]))
    have hfraction (cs : List Char) : Numeral.fraction (d :: cs) = ([], d :: cs) := by
      simp [Numeral.fraction, hpoint]
    rw [Numeral.decimal?, hbehind, hdrop, List.cons_append, hfraction]
    dsimp only
    rw [Numeral.exponent?_of_isDigit hd]
    split <;> rfl

/-- A numeral in ASCII digits is read as its value, and another one is not read. -/
theorem read?_chars (n : Bare) :
    Double.read? n.chars = if n.IsAscii then some n.value else none := by
  split
  · next hascii =>
    have hread := (n.plain hascii).read?_chars
    rwa [toDouble_decimal] at hread
  · next hascii =>
    obtain ⟨c, cs, heq, hc⟩ := n.isUnsigned.exists_eq_cons
    have hnone := decimal?_eq_none hascii
    rw [heq] at hnone
    rw [chars, heq, Numeral.read?_of_isDigit hc, hnone, Option.map_none]

end Bare

namespace Operand

/-- The literal of a text is the one that the operand with this text stands for. -/
theorem ofText_chars (o : Operand) : Literal.ofText o.chars = o.literal := by
  obtain ⟨-, hhead, hlast⟩ := o.isOperand_chars.isBlank_ends
  unfold Literal.ofText
  rw [trim_eq_self hhead hlast]
  cases o with
  | quoted inside noQuote =>
    -- A quotation is neither a numeral nor the name of a special value.
    have hread : Double.read? (quoted inside noQuote).chars = none :=
      Numeral.named?_eq_none (by decide) (by decide) false (inside ++ ['\''])
    have hfilter : (quoted inside noQuote).chars.filter (· ≠ '\'') = inside := by
      rw [chars, List.filter_cons_of_neg (by decide), List.filter_append, filter_ne_quote noQuote]
      exact List.append_nil inside
    dsimp only
    rw [hread, hfilter, literal]
  | bare n =>
    have hfilter : (bare n).chars.filter (· ≠ '\'') = n.chars := filter_ne_quote fun c hc => by
      rcases mem_chars_bare hc with rfl | rfl | hdigit
      · decide
      · decide
      · exact ne_of_class hdigit (isDigit_sign (by simp [signs]))
    dsimp only
    rw [hfilter, chars, n.read?_chars, literal, Bare.literal]
    by_cases hascii : n.IsAscii <;> by_cases hfinite : n.value.isFinite <;> simp [hascii, hfinite]

end Operand

/-! ## Clauses -/

/-- A clause in its parts. -/
structure Clause where
  field : List Char
  gap : List Char
  comparator : Comparator
  gap' : List Char
  operand : Operand
  field_ne_nil : field ≠ []
  isWord_of_mem_field : ∀ c ∈ field, isWord c = true
  isBlank_of_mem_gap : ∀ c ∈ gap, isBlank c = true
  isSupported : comparator.isSupported = true
  isBlank_of_mem_gap' : ∀ c ∈ gap', isBlank c = true

namespace Clause

/-- The text of a clause. -/
def chars (k : Clause) : List Char :=
  k.field ++ (k.gap ++ (k.comparator.symbol.toList ++ (k.gap' ++ k.operand.chars)))

/-- The condition that a clause states. -/
def condition (k : Clause) : Condition :=
  ⟨String.ofList k.field, k.comparator, k.operand.literal⟩

/-- The text of a clause is one that is found. -/
theorem isClause (k : Clause) : Lexeme.IsClause k.field k.chars :=
  .mk k.field_ne_nil k.isWord_of_mem_field k.isBlank_of_mem_gap
    (Comparator.symbol_mem_symbols k.isSupported) k.isBlank_of_mem_gap' k.operand.isOperand_chars

/-- What is found as a clause is the text of one. -/
theorem exists_chars_eq {field text : List Char} (h : Lexeme.IsClause field text) :
    ∃ k : Clause, k.chars = text := by
  obtain @⟨gap, gap', operand, symbol, ne_nil, isWord, blank, mem_symbols, blank', isOperand⟩ := h
  obtain ⟨o, rfl⟩ := Operand.exists_chars_eq isOperand
  refine ⟨⟨field, gap, .ofSymbol symbol, gap', o, ne_nil, isWord, blank,
    Comparator.isSupported_ofSymbol mem_symbols, blank'⟩, ?_⟩
  have hsymbol : symbol ≠ "==" := by
    rintro rfl
    exact absurd mem_symbols (by decide)
  rw [chars, Comparator.symbol_ofSymbol, if_neg hsymbol]

/-- The value behind a comparator is the operand, unless there is a line feed in it. -/
theorem value?_append (k : Clause) : Condition.value? (k.gap' ++ k.operand.chars) =
    if '\n' ∈ k.operand.chars then none else some k.operand.chars := by
  obtain ⟨hne, hhead, -⟩ := k.operand.isOperand_chars.isBlank_ends
  rw [Condition.value?, (takeWhile_append_of_forall k.isBlank_of_mem_gap' _ hhead).2]
  simp [hne]

/-- A clause is split into its parts, unless there is a line feed in its operand. -/
theorem ofClause?_chars (k : Clause) :
    Condition.ofClause? k.chars = if '\n' ∈ k.operand.chars then none else some k.condition := by
  have hsymbol := Comparator.symbol_mem_symbols k.isSupported
  have hspaced := k.operand.isOperand_chars.spacedOperand?_eq k.isBlank_of_mem_gap'
  obtain ⟨⟨hfield, hbehind⟩, -, hrest⟩ := Lexeme.takeWhile_field_gap k.isWord_of_mem_field
    k.isBlank_of_mem_gap hsymbol (k.gap' ++ k.operand.chars)
  have hfound := Lexeme.findSome?_symbols hsymbol (Lexeme.head?_ne_of_spacedOperand? hspaced)
    (fun symbol behind => do
      let value ← Condition.value? behind
      pure (⟨String.ofList k.field, .ofSymbol symbol, .ofText value⟩ : Condition))
    fun shorter hnone => by
      -- With a shorter comparator the line feed is in the value as well.
      have hline : '\n' ∈ k.operand.chars := by
        by_contra hline
        rw [k.value?_append, if_neg hline] at hnone
        cases hnone
      have hblank : isBlank '=' = false := isBlank_sign (by simp [signs])
      simp [Condition.value?, hblank, hline]
  unfold Condition.ofClause?
  rw [chars, hfield, hbehind, hrest]
  dsimp only
  rw [if_neg (mt List.isEmpty_iff.1 k.field_ne_nil)]
  refine hfound.trans ?_
  rw [k.value?_append]
  split
  · rfl
  · rw [condition, ← k.operand.ofText_chars, Comparator.ofSymbol_symbol k.isSupported]
    rfl

/-- A clause states its condition or is malformed as it stands. -/
theorem ofClause_chars (k : Clause) (position : Nat) :
    Condition.ofClause k.chars position = if '\n' ∈ k.operand.chars then
      .error (.malformedComparison position (String.ofList k.chars)) else .ok k.condition := by
  rw [Condition.ofClause, k.isClause.trim_eq, k.ofClause?_chars]
  by_cases hline : '\n' ∈ k.operand.chars
  · rw [if_pos hline, if_pos hline]
  · rw [if_neg hline, if_neg hline]

/-- A clause that is found in a text has parts, and it is split into them: the condition has the
word in front as its field, the comparator as it is written, and as its literal what is between the
quotes or what the numeral stands for. Only a line feed between the quotes makes the clause
malformed. -/
theorem splits_as_found {cs text rest : List Char} (h : Lexeme.clause? cs = some (text, rest)) :
    (∃ k : Clause, k.chars = text) ∧
      ∀ k : Clause, k.chars = text → k.field = cs.takeWhile isWord ∧ ∀ position,
        ((∃ c, Condition.ofClause text position = .ok c) ↔ ¬ k.operand.HasLineFeed) ∧
        (¬ k.operand.HasLineFeed → Condition.ofClause text position = .ok k.condition) ∧
        (k.operand.HasLineFeed → Condition.ofClause text position =
          .error (.malformedComparison position (String.ofList text))) := by
  refine ⟨exists_chars_eq (Lexeme.isClause_of_clause? h), ?_⟩
  rintro k rfl
  refine ⟨?_, fun position => ?_⟩
  · rw [(Lexeme.eq_append_of_clause? h).1, k.isClause.takeWhile_append]
  · rw [← k.operand.lineFeed_mem_chars_iff, k.ofClause_chars]
    by_cases hline : '\n' ∈ k.operand.chars <;> simp [hline]

/-- A numeral between quotes stays a text, behind the longer of two comparators, and a line feed
between quotes makes the clause malformed. -/
theorem splits_as_found_quoted :
    Condition.ofClause "é<=\u3000'1'".toList 2 = .ok ⟨"é", .le, .text "1"⟩ ∧
      Condition.ofClause "é<= '\n'".toList 2 = .error (.malformedComparison 2 "é<= '\n'") := by
  have isWord : ∀ c ∈ ['é'], isWord c = true := List.all_eq_true.1 (by decide +kernel)
  have wide : ∀ c ∈ ['\u3000'], isBlank c = true := List.all_eq_true.1 (by decide +kernel)
  have digit : Lexeme.clause? "é<=\u3000'1' OR".toList =
      some ("é<=\u3000'1'".toList, " OR".toList) := by decide +kernel
  have lineFeed : Lexeme.clause? "é<= '\n')".toList = some ("é<= '\n'".toList, ")".toList) := by
    decide +kernel
  obtain ⟨-, hdigit⟩ := (splits_as_found digit).2
    ⟨['é'], [], .le, ['\u3000'], .quoted ['1'] (by simp), by simp, isWord, by simp, rfl, wide⟩
    (by simp [chars, Operand.chars, Comparator.symbol])
  obtain ⟨-, hlineFeed⟩ := (splits_as_found lineFeed).2
    ⟨['é'], [], .le, [' '], .quoted ['\n'] (by simp), by simp, isWord, by simp, rfl,
      isBlank_of_mem_space⟩
    (by simp [chars, Operand.chars, Comparator.symbol])
  exact ⟨(hdigit 2).2.1 (by simp [Operand.HasLineFeed]),
    (hlineFeed 2).2.2 (by simp [Operand.HasLineFeed])⟩

/-- Digits of another script are no number. -/
example : Condition.ofClause "x>-٣.٥".toList 0 = .ok ⟨"x", .gt, .text "-٣.٥"⟩ := by
  decide +kernel

end Clause

end Rulebook
