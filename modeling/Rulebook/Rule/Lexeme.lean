import Rulebook.Rule.Condition
import Rulebook.Text.Word

/-!
# The lexemes of a rule text

A lexeme is a keyword between word boundaries, a parenthesis, or a clause: a field, a comparator
and a quoted text or a numeral, with white space between them if any. `Lexeme.find?` looks for the
first place where one starts; `Condition.ofClause?` splits a clause, of more shapes than a lexeme
has.
-/

namespace Rulebook

open Text

/-- A piece of a rule text. -/
inductive Lexeme where
  | keyword (connective : Connective)
  | openParen
  | closeParen
  | clause
  deriving DecidableEq, Repr

namespace Lexeme

/-- What follows `word` in `cs`, if `cs` starts with it. -/
def after? (word cs : List Char) : Option (List Char) :=
  if word.isPrefixOf cs then some (cs.drop word.length) else none

/-- Whether a text does not go on with a word character. -/
def endsWord : List Char → Bool
  | c :: _ => !isWord c
  | [] => true

/-- What follows a keyword that has word boundaries on both sides; `before` is the character in
front of it. -/
def keyword? (word : String) (before : Option Char) (cs : List Char) : Option (List Char) :=
  if before.any isWord then none
  else (after? word.toList cs).filter endsWord

/-- A quoted text, from quote to quote. -/
def quotation? : List Char → Option (List Char × List Char)
  | '\'' :: cs =>
    match cs.dropWhile (· ≠ '\'') with
    | [] => none
    | _ :: rest => some ('\'' :: (cs.takeWhile (· ≠ '\'') ++ ['\'']), rest)
  | _ => none

/-- The fraction that may follow the whole part of a numeral. -/
def fraction : List Char → List Char × List Char
  | '.' :: cs =>
    -- A point without a digit behind it is no part of the numeral.
    if (cs.takeWhile isDigit).isEmpty then ([], '.' :: cs)
    else ('.' :: cs.takeWhile isDigit, cs.dropWhile isDigit)
  | cs => ([], cs)

/-- An unsigned numeral: digits of any script, with a fraction or without. -/
def unsigned? (cs : List Char) : Option (List Char × List Char) :=
  if (cs.takeWhile isDigit).isEmpty then none
  else
    let (frac, rest) := fraction (cs.dropWhile isDigit)
    some (cs.takeWhile isDigit ++ frac, rest)

/-- A numeral, which may have a minus. -/
def numeral? : List Char → Option (List Char × List Char)
  | '-' :: cs => (unsigned? cs).map fun (text, rest) => ('-' :: text, rest)
  | cs => unsigned? cs

/-- The value of a clause: a quoted text or a numeral. -/
def operand? (cs : List Char) : Option (List Char × List Char) :=
  (quotation? cs).or (numeral? cs)

/-- White space with an operand behind it. -/
def spacedOperand? (cs : List Char) : Option (List Char × List Char) :=
  (operand? (cs.dropWhile isBlank)).map fun (text, rest) => (cs.takeWhile isBlank ++ text, rest)

/-- A comparator with an operand behind it, the first of the symbols that fits. -/
def comparison? (cs : List Char) : Option (List Char × List Char) :=
  Comparator.symbols.findSome? fun symbol => do
    let rest ← after? symbol.toList cs
    let (text, rest) ← spacedOperand? rest
    pure (symbol.toList ++ text, rest)

/-- A clause and what follows it. -/
def clause? (cs : List Char) : Option (List Char × List Char) :=
  -- A shorter field would have a word character behind it, and no comparator starts with one.
  if (cs.takeWhile isWord).isEmpty then none
  else
    let gap := (cs.dropWhile isWord).takeWhile isBlank
    (comparison? ((cs.dropWhile isWord).dropWhile isBlank)).map fun (text, rest) =>
      (cs.takeWhile isWord ++ gap ++ text, rest)

/-- The lexeme at the start of `cs`, with its text and what follows; `before` is the character in
front of `cs`. -/
def atStart? (before : Option Char) (cs : List Char) : Option (Lexeme × List Char × List Char) :=
  match keyword? "AND" before cs with
  | some rest => some (.keyword .and, "AND".toList, rest)
  | none =>
    match keyword? "OR" before cs with
    | some rest => some (.keyword .or, "OR".toList, rest)
    | none =>
      match cs with
      | '(' :: rest => some (.openParen, ['('], rest)
      | ')' :: rest => some (.closeParen, [')'], rest)
      | cs => (clause? cs).map fun (text, rest) => (.clause, text, rest)

/-- A lexeme in a text: what is skipped in front of it, its own text, and what follows. -/
structure Found where
  skipped : List Char
  lexeme : Lexeme
  text : List Char
  rest : List Char

/-- The first lexeme of a text. -/
def find? (before : Option Char) : List Char → Option Found
  | [] => none
  | c :: cs =>
    match atStart? before (c :: cs) with
    | some (lexeme, text, rest) => some ⟨[], lexeme, text, rest⟩
    | none => (find? (some c) cs).map fun f => { f with skipped := c :: f.skipped }

/-! ### What is found is a part of the text -/

theorem eq_append_of_after? {word cs rest : List Char} (h : after? word cs = some rest) :
    cs = word ++ rest := by
  unfold after? at h
  split at h
  · rename_i hw
    obtain ⟨t, rfl⟩ := List.isPrefixOf_iff_prefix.1 hw
    simp only [List.drop_left, Option.some.injEq] at h
    rw [h]
  · contradiction

theorem eq_append_of_keyword? {word : String} {before : Option Char} {cs rest : List Char}
    (h : keyword? word before cs = some rest) : cs = word.toList ++ rest := by
  unfold keyword? at h
  split at h
  · contradiction
  · exact eq_append_of_after? (Option.eq_some_of_filter_eq_some h)

theorem eq_append_of_quotation? {cs text rest : List Char}
    (h : quotation? cs = some (text, rest)) : cs = text ++ rest := by
  unfold quotation? at h
  split at h
  · rename_i cs
    split at h
    · contradiction
    · rename_i c rest' hdrop
      have hc : c = '\'' := by
        have := List.head?_dropWhile_not (· ≠ '\'') cs
        rw [hdrop] at this
        simpa using this
      simp only [Option.some.injEq, Prod.mk.injEq] at h
      obtain ⟨rfl, rfl⟩ := h
      have hsplit := List.takeWhile_append_dropWhile (p := (· ≠ '\'')) (l := cs)
      rw [hdrop, hc] at hsplit
      simp only [List.cons_append, List.append_assoc, List.nil_append, hsplit]
  · contradiction

theorem fraction_append (cs : List Char) : (fraction cs).1 ++ (fraction cs).2 = cs := by
  unfold fraction
  split
  · split <;> simp
  · rfl

theorem eq_append_of_unsigned? {cs text rest : List Char}
    (h : unsigned? cs = some (text, rest)) : cs = text ++ rest := by
  unfold unsigned? at h
  split at h
  · contradiction
  · simp only [Option.some.injEq, Prod.mk.injEq] at h
    obtain ⟨rfl, rfl⟩ := h
    rw [List.append_assoc, fraction_append, List.takeWhile_append_dropWhile]

theorem eq_append_of_numeral? {cs text rest : List Char}
    (h : numeral? cs = some (text, rest)) : cs = text ++ rest := by
  unfold numeral? at h
  split at h
  · obtain ⟨⟨text', rest'⟩, hu, heq⟩ := Option.map_eq_some_iff.1 h
    simp only [Prod.mk.injEq] at heq
    obtain ⟨rfl, rfl⟩ := heq
    rw [eq_append_of_unsigned? hu, List.cons_append]
  · exact eq_append_of_unsigned? h

theorem eq_append_of_operand? {cs text rest : List Char}
    (h : operand? cs = some (text, rest)) : cs = text ++ rest := by
  rcases Option.or_eq_some_iff.1 h with h | ⟨-, h⟩
  · exact eq_append_of_quotation? h
  · exact eq_append_of_numeral? h

theorem eq_append_of_spacedOperand? {cs text rest : List Char}
    (h : spacedOperand? cs = some (text, rest)) : cs = text ++ rest := by
  obtain ⟨⟨text', rest'⟩, ho, heq⟩ := Option.map_eq_some_iff.1 h
  simp only [Prod.mk.injEq] at heq
  obtain ⟨rfl, rfl⟩ := heq
  rw [List.append_assoc, ← eq_append_of_operand? ho, List.takeWhile_append_dropWhile]

theorem eq_append_of_comparison? {cs text rest : List Char}
    (h : comparison? cs = some (text, rest)) : cs = text ++ rest := by
  obtain ⟨symbol, -, hs⟩ := List.exists_of_findSome?_eq_some h
  simp only [Option.bind_eq_bind, Option.bind_eq_some_iff, Option.pure_def,
    Option.some.injEq, Prod.mk.injEq] at hs
  obtain ⟨rest', ha, ⟨text', rest''⟩, hb, rfl, rfl⟩ := hs
  rw [List.append_assoc, ← eq_append_of_spacedOperand? hb]
  exact eq_append_of_after? ha

theorem eq_append_of_clause? {cs text rest : List Char}
    (h : clause? cs = some (text, rest)) : cs = text ++ rest ∧ text ≠ [] := by
  unfold clause? at h
  split at h
  · contradiction
  · rename_i hw
    obtain ⟨⟨text', rest'⟩, hc, heq⟩ := Option.map_eq_some_iff.1 h
    simp only [Prod.mk.injEq] at heq
    obtain ⟨rfl, rfl⟩ := heq
    constructor
    · simp only [List.append_assoc]
      rw [← eq_append_of_comparison? hc, List.takeWhile_append_dropWhile,
        List.takeWhile_append_dropWhile]
    · simp only [List.isEmpty_iff] at hw
      simp [hw]

/-- A lexeme's text stands at the start, and it is not empty. -/
theorem eq_append_of_atStart? {before : Option Char} {cs text rest : List Char} {lexeme : Lexeme}
    (h : atStart? before cs = some (lexeme, text, rest)) : cs = text ++ rest ∧ text ≠ [] := by
  unfold atStart? at h
  split at h
  · rename_i hk
    simp only [Option.some.injEq, Prod.mk.injEq] at h
    obtain ⟨-, rfl, rfl⟩ := h
    exact ⟨eq_append_of_keyword? hk, by simp⟩
  · split at h
    · rename_i hk
      simp only [Option.some.injEq, Prod.mk.injEq] at h
      obtain ⟨-, rfl, rfl⟩ := h
      exact ⟨eq_append_of_keyword? hk, by simp⟩
    · split at h
      · simp only [Option.some.injEq, Prod.mk.injEq] at h
        obtain ⟨-, rfl, rfl⟩ := h
        simp
      · simp only [Option.some.injEq, Prod.mk.injEq] at h
        obtain ⟨-, rfl, rfl⟩ := h
        simp
      · obtain ⟨⟨text', rest'⟩, hc, heq⟩ := Option.map_eq_some_iff.1 h
        simp only [Prod.mk.injEq] at heq
        obtain ⟨-, rfl, rfl⟩ := heq
        exact eq_append_of_clause? hc

/-- What is skipped, the lexeme and the rest make up the text. -/
theorem eq_append_of_find? {before : Option Char} {cs : List Char} {f : Found}
    (h : find? before cs = some f) : cs = f.skipped ++ f.text ++ f.rest ∧ f.text ≠ [] := by
  induction cs generalizing before f with
  | nil => simp [find?] at h
  | cons c cs ih =>
    unfold find? at h
    split at h
    · rename_i hs
      simp only [Option.some.injEq] at h
      subst h
      simpa using eq_append_of_atStart? hs
    · obtain ⟨g, hg, rfl⟩ := Option.map_eq_some_iff.1 h
      obtain ⟨hcs, hne⟩ := ih hg
      exact ⟨by simpa using hcs, hne⟩

/-- What follows a lexeme is shorter than the text. -/
theorem rest_length_lt_of_find? {before : Option Char} {cs : List Char} {f : Found}
    (h : find? before cs = some f) : f.rest.length < cs.length := by
  obtain ⟨hcs, hne⟩ := eq_append_of_find? h
  have := List.length_pos_iff.2 hne
  rw [hcs]
  simp only [List.length_append]
  omega

end Lexeme

end Rulebook
