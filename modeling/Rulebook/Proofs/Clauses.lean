import Mathlib.Data.List.TakeWhile
import Rulebook.Proofs.Lexemes

/-!
# What a clause is

The texts that are read as clauses, said without the readers: a field, a comparator and an operand,
with white space between them if any (`IsClause`). The reader takes nothing else off the start of a
text (`isClause_of_clause?`), and it takes a whole clause off if nothing follows it
(`IsClause.clause?_eq`). What it makes of a clause does not depend on what has been behind it.

A clause starts with a word character and ends in a quote or a digit, so there is no white space at
its ends (`IsClause.trim_eq`).
-/

namespace Rulebook.Lexeme

open Text

/-- A fraction: nothing, or a point with digits behind it. -/
inductive IsFraction : List Char → Prop
  | none : IsFraction []
  | digits {digits : List Char} (ne_nil : digits ≠ []) (isDigit : ∀ c ∈ digits, isDigit c = true) :
      IsFraction ('.' :: digits)

/-- A numeral without a sign: digits and a fraction. -/
inductive IsUnsigned : List Char → Prop
  | mk {whole frac : List Char} (ne_nil : whole ≠ []) (isDigit : ∀ c ∈ whole, isDigit c = true)
      (fraction : IsFraction frac) : IsUnsigned (whole ++ frac)

/-- An operand: a quoted text or a numeral. -/
inductive IsOperand : List Char → Prop
  | quoted {inside : List Char} (noQuote : ∀ c ∈ inside, c ≠ '\'') :
      IsOperand ('\'' :: (inside ++ ['\'']))
  | unsigned {text : List Char} (unsigned : IsUnsigned text) : IsOperand text
  | negative {text : List Char} (unsigned : IsUnsigned text) : IsOperand ('-' :: text)

/-- A clause with this field: a word, a comparator and an operand, with white space between them if
any. -/
inductive IsClause (field : List Char) : List Char → Prop
  | mk {gap gap' text : List Char} {symbol : String} (ne_nil : field ≠ [])
      (isWord : ∀ c ∈ field, isWord c = true) (blank : ∀ c ∈ gap, isBlank c = true)
      (mem_symbols : symbol ∈ Comparator.symbols) (blank' : ∀ c ∈ gap', isBlank c = true)
      (operand : IsOperand text) :
      IsClause field (field ++ (gap ++ (symbol.toList ++ (gap' ++ text))))

/-! ## What is read -/

/-- What is read as a fraction is one. -/
theorem isFraction_fraction (cs : List Char) : IsFraction (fraction cs).1 := by
  unfold fraction
  split
  · next digits =>
    cases hdigits : (digits.takeWhile isDigit).isEmpty with
    | true => exact .none
    | false =>
      exact .digits (by rwa [Ne, ← List.isEmpty_iff, Bool.not_eq_true])
        fun c hc => List.mem_takeWhile_imp hc
  · exact .none

/-- What is read as a numeral without a sign is one. -/
theorem isUnsigned_of_unsigned? {cs text rest : List Char} (h : unsigned? cs = some (text, rest)) :
    IsUnsigned text := by
  unfold unsigned? at h
  split at h
  · cases h
  · next hdigits =>
    obtain ⟨rfl, -⟩ := Prod.mk.inj (Option.some.inj h)
    exact .mk (mt List.isEmpty_iff.2 hdigits) (fun c hc => List.mem_takeWhile_imp hc)
      (isFraction_fraction _)

/-- What is read as an operand is one. -/
theorem isOperand_of_operand? {cs text rest : List Char} (h : operand? cs = some (text, rest)) :
    IsOperand text := by
  rcases Option.or_eq_some_iff.1 h with hquotation | ⟨-, hnumeral⟩
  · unfold quotation? at hquotation
    split at hquotation
    · split at hquotation
      · cases hquotation
      · obtain ⟨rfl, -⟩ := Prod.mk.inj (Option.some.inj hquotation)
        refine .quoted fun c hc => ?_
        have hother := List.mem_takeWhile_imp hc
        exact of_decide_eq_true hother
    · cases hquotation
  · unfold numeral? at hnumeral
    split at hnumeral
    · obtain ⟨⟨text', rest'⟩, hunsigned, heq⟩ := Option.map_eq_some_iff.1 hnumeral
      obtain ⟨rfl, -⟩ := Prod.mk.inj heq
      exact .negative (isUnsigned_of_unsigned? hunsigned)
    · exact .unsigned (isUnsigned_of_unsigned? hnumeral)

/-- What is read as a clause is one, and its field is the word in front. -/
theorem isClause_of_clause? {cs text rest : List Char} (h : clause? cs = some (text, rest)) :
    IsClause (cs.takeWhile isWord) text := by
  unfold clause? at h
  split at h
  · cases h
  · next hfield =>
    obtain ⟨⟨text', rest'⟩, hcomparison, heq⟩ := Option.map_eq_some_iff.1 h
    obtain ⟨rfl, -⟩ := Prod.mk.inj heq
    obtain ⟨symbol, hsymbol, behind, operand, -, hspaced, rfl⟩ :=
      exists_of_comparison? hcomparison
    obtain ⟨⟨text'', rest''⟩, hoperand, heq'⟩ := Option.map_eq_some_iff.1 hspaced
    obtain ⟨rfl, -⟩ := Prod.mk.inj heq'
    rw [List.append_assoc]
    exact .mk (mt List.isEmpty_iff.2 hfield) (fun c hc => List.mem_takeWhile_imp hc)
      (fun c hc => List.mem_takeWhile_imp hc) hsymbol (fun c hc => List.mem_takeWhile_imp hc)
      (isOperand_of_operand? hoperand)

/-! ## What is read again -/

/-- A fraction is read whole. -/
theorem IsFraction.fraction_eq {frac : List Char} (h : IsFraction frac) :
    fraction frac = (frac, []) := by
  cases h with
  | none => rfl
  | @digits digits ne_nil isDigit =>
    obtain ⟨htake, hdrop⟩ := takeWhile_append_of_forall isDigit [] (by simp)
    rw [List.append_nil] at htake hdrop
    rw [fraction, htake, hdrop, if_neg (mt List.isEmpty_iff.1 ne_nil)]

/-- A fraction goes on no row of digits. -/
theorem IsFraction.isDigit_eq_false {frac : List Char} (h : IsFraction frac) :
    ∀ c ∈ frac.head?, isDigit c = false := by
  cases h with
  | none => simp
  | digits =>
    rintro _ ⟨⟩
    exact isDigit_sign (by simp [signs])

/-- A numeral without a sign is read whole. -/
theorem IsUnsigned.unsigned?_eq {text : List Char} (h : IsUnsigned text) :
    unsigned? text = some (text, []) := by
  obtain @⟨whole, frac, ne_nil, isDigit, fraction⟩ := h
  obtain ⟨htake, hdrop⟩ := takeWhile_append_of_forall isDigit frac fraction.isDigit_eq_false
  rw [unsigned?, htake, hdrop, if_neg (mt List.isEmpty_iff.1 ne_nil), fraction.fraction_eq]

/-- A numeral without a sign starts with a digit. -/
theorem IsUnsigned.exists_eq_cons {text : List Char} (h : IsUnsigned text) :
    ∃ c cs, text = c :: cs ∧ isDigit c = true := by
  obtain @⟨whole, frac, ne_nil, isDigit, -⟩ := h
  obtain ⟨c, cs, rfl⟩ := List.exists_cons_of_ne_nil ne_nil
  exact ⟨c, cs ++ frac, rfl, isDigit c List.mem_cons_self⟩

/-- A numeral without a sign is read whole where a sign may stand. -/
theorem IsUnsigned.numeral?_eq {text : List Char} (h : IsUnsigned text) :
    numeral? text = some (text, []) := by
  obtain ⟨c, cs, rfl, hc⟩ := h.exists_eq_cons
  have hminus : c ≠ '-' := ne_of_class hc (isDigit_sign (by simp [signs]))
  rw [← h.unsigned?_eq]
  simp [numeral?, hminus]

/-- A numeral is read whole where a quotation may stand. -/
theorem operand?_of_numeral? {text : List Char} (h : numeral? text = some (text, [])) :
    operand? text = some (text, []) := by
  have hquotation := quotation?_eq_none_of_numeral? h []
  rw [List.append_nil] at hquotation
  rw [operand?, hquotation, h]
  rfl

/-- An operand is read whole. -/
theorem IsOperand.operand?_eq {text : List Char} (h : IsOperand text) :
    operand? text = some (text, []) := by
  cases h with
  | @quoted inside noQuote =>
    obtain ⟨htake, hdrop⟩ := takeWhile_append_of_forall (p := (· ≠ '\''))
      (fun c hc => decide_eq_true (noQuote c hc)) ['\''] (by simp)
    rw [operand?, quotation?, htake, hdrop]
    rfl
  | unsigned unsigned => exact operand?_of_numeral? unsigned.numeral?_eq
  | negative unsigned =>
    refine operand?_of_numeral? ?_
    rw [numeral?, unsigned.unsigned?_eq]
    rfl

/-- A digit is no white space. -/
theorem isBlank_of_isDigit {c : Char} (h : isDigit c = true) : isBlank c = false :=
  isBlank_of_isWord (isWord_of_isDigit h)

/-- There is no white space in a numeral without a sign. -/
theorem IsUnsigned.isBlank_eq_false {text : List Char} (h : IsUnsigned text) :
    ∀ c ∈ text, isBlank c = false := by
  obtain @⟨whole, frac, -, isDigit, fraction⟩ := h
  refine List.forall_mem_append.2 ⟨fun c hc => isBlank_of_isDigit (isDigit c hc), ?_⟩
  cases fraction with
  | none => simp
  | digits _ isDigit' =>
    exact List.forall_mem_cons.2
      ⟨isBlank_sign (by simp [signs]), fun c hc => isBlank_of_isDigit (isDigit' c hc)⟩

/-- There is no white space at the ends of an operand. -/
theorem IsOperand.isBlank_ends {text : List Char} (h : IsOperand text) :
    text ≠ [] ∧ (∀ c ∈ text.head?, isBlank c = false) ∧ ∀ c ∈ text.getLast?, isBlank c = false := by
  have hquote : isBlank '\'' = false := isBlank_sign (by simp [signs])
  have hminus : isBlank '-' = false := isBlank_sign (by simp [signs])
  have hall {text : List Char} (hne : text ≠ []) (h : ∀ c ∈ text, isBlank c = false) :
      text ≠ [] ∧ (∀ c ∈ text.head?, isBlank c = false) ∧ ∀ c ∈ text.getLast?, isBlank c = false :=
    ⟨hne, fun c hc => h c (List.mem_of_mem_head? hc), fun c hc => h c (List.mem_of_mem_getLast? hc)⟩
  cases h with
  | @quoted inside noQuote =>
    refine ⟨List.cons_ne_nil _ _, ?_, ?_⟩
    · rintro _ ⟨⟩
      exact hquote
    · rw [← List.cons_append, List.getLast?_concat]
      rintro _ ⟨⟩
      exact hquote
  | unsigned unsigned =>
    obtain ⟨c, cs, heq, -⟩ := unsigned.exists_eq_cons
    exact hall (by rw [heq]; exact List.cons_ne_nil _ _) unsigned.isBlank_eq_false
  | negative unsigned =>
    exact hall (List.cons_ne_nil _ _)
      (List.forall_mem_cons.2 ⟨hminus, unsigned.isBlank_eq_false⟩)

/-- A comparator starts with neither a word character nor white space. -/
theorem exists_symbol_eq_cons {symbol : String} (h : symbol ∈ Comparator.symbols) :
    ∃ c cs, symbol.toList = c :: cs ∧ isWord c = false ∧ isBlank c = false := by
  simp only [Comparator.symbols, List.mem_cons, List.not_mem_nil, or_false] at h
  rcases h with rfl | rfl | rfl | rfl | rfl
  · exact ⟨'<', ['='], rfl, isWord_isBlank_signs (by simp [signs])⟩
  · exact ⟨'>', ['='], rfl, isWord_isBlank_signs (by simp [signs])⟩
  · exact ⟨'<', [], rfl, isWord_isBlank_signs (by simp [signs])⟩
  · exact ⟨'>', [], rfl, isWord_isBlank_signs (by simp [signs])⟩
  · exact ⟨'=', [], rfl, isWord_isBlank_signs (by simp [signs])⟩

/-- What follows the field of a clause goes on no word. -/
theorem isWord_head?_of_blank {gap rest : List Char} {symbol : String}
    (blank : ∀ c ∈ gap, isBlank c = true) (h : symbol ∈ Comparator.symbols) :
    ∀ c ∈ (gap ++ (symbol.toList ++ rest)).head?, isWord c = false := by
  cases gap with
  | nil =>
    obtain ⟨c, cs, heq, hword, -⟩ := exists_symbol_eq_cons h
    rw [heq]
    rintro _ ⟨⟩
    exact hword
  | cons c gap =>
    rintro _ ⟨⟩
    exact isWord_of_isBlank (blank c List.mem_cons_self)

/-- The field of a clause and the white space behind it are split from the comparator. -/
theorem takeWhile_field_gap {field gap : List Char} {symbol : String}
    (isWord : ∀ c ∈ field, isWord c = true) (blank : ∀ c ∈ gap, isBlank c = true)
    (h : symbol ∈ Comparator.symbols) (rest : List Char) :
    ((field ++ (gap ++ (symbol.toList ++ rest))).takeWhile Text.isWord = field ∧
      (field ++ (gap ++ (symbol.toList ++ rest))).dropWhile Text.isWord =
        gap ++ (symbol.toList ++ rest)) ∧
      (gap ++ (symbol.toList ++ rest)).takeWhile isBlank = gap ∧
        (gap ++ (symbol.toList ++ rest)).dropWhile isBlank = symbol.toList ++ rest := by
  obtain ⟨c, cs, hsymbol, -, hblank⟩ := exists_symbol_eq_cons h
  refine ⟨takeWhile_append_of_forall isWord _ (isWord_head?_of_blank blank h),
    takeWhile_append_of_forall blank _ ?_⟩
  rw [hsymbol]
  rintro _ ⟨⟩
  exact hblank

/-- An operand is read whole behind white space. -/
theorem IsOperand.spacedOperand?_eq {gap text : List Char} (h : IsOperand text)
    (blank : ∀ c ∈ gap, isBlank c = true) :
    spacedOperand? (gap ++ text) = some (gap ++ text, []) := by
  obtain ⟨htake, hdrop⟩ := takeWhile_append_of_forall blank text h.isBlank_ends.2.1
  rw [spacedOperand?, htake, hdrop, h.operand?_eq]
  rfl

namespace IsClause

variable {field text : List Char}

/-- A clause starts with its field, and what follows the field goes on no word. -/
theorem exists_field_append (h : IsClause field text) (suffix : List Char) :
    (∀ c ∈ field, isWord c = true) ∧
      ∃ rest, text ++ suffix = field ++ rest ∧ ∀ c ∈ rest.head?, isWord c = false := by
  obtain @⟨gap, gap', operand, symbol, -, isWord, blank, mem_symbols, -, -⟩ := h
  refine ⟨isWord, gap ++ (symbol.toList ++ (gap' ++ operand ++ suffix)), ?_,
    isWord_head?_of_blank blank mem_symbols⟩
  simp only [List.append_assoc]

/-- The field of a clause is the word in front, whatever follows the clause. -/
theorem takeWhile_append (h : IsClause field text) (suffix : List Char) :
    (text ++ suffix).takeWhile isWord = field := by
  obtain ⟨hword, rest, heq, hrest⟩ := h.exists_field_append suffix
  rw [heq]
  exact (takeWhile_append_of_forall hword rest hrest).1

/-- A clause is read whole. -/
theorem clause?_eq (h : IsClause field text) : clause? text = some (text, []) := by
  obtain @⟨gap, gap', operand, symbol, ne_nil, isWord, blank, mem_symbols, blank', isOperand⟩ := h
  obtain ⟨⟨hfield, hbehind⟩, hgap, hcomparison⟩ :=
    takeWhile_field_gap isWord blank mem_symbols (gap' ++ operand)
  rw [clause?, hfield, hbehind, hgap, hcomparison,
    comparison?_symbol mem_symbols (isOperand.spacedOperand?_eq blank'),
    if_neg (mt List.isEmpty_iff.1 ne_nil)]
  simp

/-- There is no white space at the ends of a clause. -/
theorem trim_eq (h : IsClause field text) : trim text = text := by
  obtain @⟨gap, gap', operand, symbol, ne_nil, isWord, -, -, -, isOperand⟩ := h
  obtain ⟨hne, -, hlast⟩ := isOperand.isBlank_ends
  apply trim_eq_self
  · obtain ⟨c, cs, rfl⟩ := List.exists_cons_of_ne_nil ne_nil
    rintro _ ⟨⟩
    exact isBlank_of_isWord (isWord c List.mem_cons_self)
  · have hbehind : (field ++ (gap ++ (symbol.toList ++ (gap' ++ operand)))).getLast? =
        operand.getLast? := by
      simp [List.getLast?_append, List.getLast?_eq_some_getLast hne]
    rwa [hbehind]

/-- A clause is found whole where it starts, if its field is no keyword. -/
theorem atStart?_eq {suffix : List Char} (h : IsClause field text) (hand : field ≠ "AND".toList)
    (hor : field ≠ "OR".toList) (hstops : Stops suffix) (before : Option Char) :
    atStart? before (text ++ suffix) = some (.clause, text, suffix) := by
  obtain ⟨hword, rest, heq, hrest⟩ := h.exists_field_append suffix
  have hnoAnd : keyword? "AND" before (text ++ suffix) = none := by
    rw [heq]
    exact keyword?_eq_none_of_ne isWord_of_mem_and hword hand hrest before
  have hnoOr : keyword? "OR" before (text ++ suffix) = none := by
    rw [heq]
    exact keyword?_eq_none_of_ne isWord_of_mem_or hword hor hrest before
  exact atStart?_of_clause? hnoAnd hnoOr (clause?_append h.clause?_eq hstops)

end IsClause

end Rulebook.Lexeme
