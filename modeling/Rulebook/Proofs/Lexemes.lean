import Rulebook.Proofs.Characters
import Rulebook.Rule.Lexeme

/-!
# Lexemes in front of something else

A lexeme that ends where a text ends stays what it is when more follows, unless that goes on a word
or a numeral (`Stops`): `atStart?_append`. What stands in front of a lexeme matters only by being a
word character or not (`atStart?_congr`), and no lexeme starts at white space
(`atStart?_of_isBlank`).
-/

namespace Rulebook.Lexeme

open Text

/-- What follows does not go on a word or a numeral. -/
def Stops (rest : List Char) : Prop := ∀ c ∈ rest.head?, isWord c = false ∧ c ≠ '.'

/-- A text that starts with neither a word character nor a point stops what is in front of it. -/
theorem stops_cons {c : Char} (hword : isWord c = false) (hpoint : c ≠ '.') (rest : List Char) :
    Stops (c :: rest) := by
  rintro _ ⟨⟩
  exact ⟨hword, hpoint⟩

/-- What follows does not go on a row of digits. -/
theorem Stops.isDigit_eq_false {rest : List Char} (h : Stops rest) :
    ∀ c ∈ rest.head?, isDigit c = false := by
  intro c hc
  have hword := (h c hc).1
  cases hdigit : isDigit c with
  | false => rfl
  | true =>
    rw [isWord_of_isDigit hdigit] at hword
    cases hword

/-! ## Keywords -/

/-- A word is in front of a longer text only if it is in front of the text, unless the rest goes on
with its characters. -/
theorem after?_append {word cs suffix : List Char} (hword : ∀ c ∈ word, isWord c = true)
    (hstops : Stops suffix) : after? word (cs ++ suffix) = (after? word cs).map (· ++ suffix) := by
  induction word generalizing cs with
  | nil => rfl
  | cons w word ih =>
    obtain ⟨hw, hword⟩ := List.forall_mem_cons.1 hword
    cases cs with
    | cons c cs =>
      have hcons (cs : List Char) :
          after? (w :: word) (c :: cs) = if w = c then after? word cs else none := by
        by_cases hwc : w = c <;> simp [after?, List.isPrefixOf, hwc]
      rw [List.cons_append, hcons, hcons]
      split
      · exact ih hword
      · rfl
    | nil =>
      have hne : (w :: word).isPrefixOf suffix = false := by
        cases suffix with
        | nil => rfl
        | cons c rest =>
          have hc := (hstops c rfl).1
          have hwc : w ≠ c := by
            rintro rfl
            rw [hw] at hc
            cases hc
          simp [List.isPrefixOf, hwc]
      rw [List.nil_append, after?, hne]
      rfl

/-- A text that goes on no word ends one. -/
theorem endsWord_eq_true {cs : List Char} (h : ∀ c ∈ cs.head?, isWord c = false) :
    endsWord cs = true := by
  cases cs with
  | nil => rfl
  | cons c cs => rw [endsWord, h c rfl, Bool.not_false]

/-- A text ends a word if and only if it does with more behind it that goes on no word. -/
theorem endsWord_append {cs suffix : List Char} (h : Stops suffix) :
    endsWord (cs ++ suffix) = endsWord cs := by
  cases cs with
  | cons c cs => rfl
  | nil =>
    cases suffix with
    | nil => rfl
    | cons c rest =>
      have hc := (h c rfl).1
      simp [endsWord, hc]

/-- A keyword stays a keyword, and none comes about, when more follows. -/
theorem keyword?_append {word : String} (hword : ∀ c ∈ word.toList, isWord c = true)
    (before : Option Char) (cs : List Char) {suffix : List Char} (hstops : Stops suffix) :
    keyword? word before (cs ++ suffix) = (keyword? word before cs).map (· ++ suffix) := by
  unfold keyword?
  split
  · rfl
  · rw [after?_append hword hstops]
    cases after? word.toList cs with
    | none => rfl
    | some rest =>
      rw [Option.map_some, Option.filter_some, Option.filter_some, endsWord_append hstops]
      split <;> rfl

/-! ## Clauses -/

/-- A closed quotation stays the same. -/
theorem quotation?_append {cs text rest : List Char} (h : quotation? cs = some (text, rest))
    (suffix : List Char) : quotation? (cs ++ suffix) = some (text, rest ++ suffix) := by
  unfold quotation? at h
  split at h
  · rename_i cs
    split at h
    · cases h
    · rename_i c rest' hdrop
      cases h
      obtain ⟨htake, hdrop'⟩ := takeWhile_append_of_stops (p := (· ≠ '\'')) cs suffix
        fun hnil => by rw [hdrop] at hnil; cases hnil
      rw [List.cons_append, quotation?, htake, hdrop', hdrop]
      rfl
  · cases h

/-- The fraction of a numeral stays the same. -/
theorem fraction_append_of_stops (cs : List Char) {suffix : List Char} (hstops : Stops suffix) :
    fraction (cs ++ suffix) = ((fraction cs).1, (fraction cs).2 ++ suffix) := by
  cases cs with
  | nil =>
    cases suffix with
    | nil => rfl
    | cons c rest =>
      have hc := (hstops c rfl).2
      simp [fraction, hc]
  | cons c cs =>
    by_cases hc : c = '.'
    · subst hc
      obtain ⟨htake, hdrop⟩ := takeWhile_append_of_stops (p := isDigit) cs suffix
        fun _ => hstops.isDigit_eq_false
      rw [List.cons_append, fraction, fraction, htake, hdrop]
      split <;> rfl
    · simp [fraction, hc]

/-- An unsigned numeral stays the same. -/
theorem unsigned?_append {cs text rest suffix : List Char}
    (h : unsigned? cs = some (text, rest)) (hstops : Stops suffix) :
    unsigned? (cs ++ suffix) = some (text, rest ++ suffix) := by
  obtain ⟨htake, hdrop⟩ := takeWhile_append_of_stops (p := isDigit) cs suffix
    fun _ => hstops.isDigit_eq_false
  unfold unsigned? at h ⊢
  rw [htake, hdrop, fraction_append_of_stops _ hstops]
  split at h
  · cases h
  · next hdigits =>
    rw [if_neg hdigits]
    cases h
    rfl

/-- A numeral stays the same. -/
theorem numeral?_append {cs text rest suffix : List Char} (h : numeral? cs = some (text, rest))
    (hstops : Stops suffix) : numeral? (cs ++ suffix) = some (text, rest ++ suffix) := by
  unfold numeral? at h
  split at h
  · obtain ⟨⟨text', rest'⟩, hu, heq⟩ := Option.map_eq_some_iff.1 h
    cases heq
    rw [List.cons_append, numeral?, unsigned?_append hu hstops]
    rfl
  · rename_i hminus
    have hcons := eq_append_of_unsigned? h
    rw [← unsigned?_append h hstops]
    cases cs with
    | nil => simp [unsigned?] at h
    | cons c cs =>
      have hc : c ≠ '-' := by
        rintro rfl
        exact hminus cs rfl
      simp [numeral?, hc]

/-- A numeral starts with no quote. -/
theorem quotation?_eq_none_of_numeral? {cs text rest : List Char}
    (h : numeral? cs = some (text, rest)) (suffix : List Char) :
    quotation? (cs ++ suffix) = none := by
  cases cs with
  | nil => simp [numeral?, unsigned?] at h
  | cons c cs =>
    by_cases hc : c = '\''
    · subst hc
      have hdigit : isDigit '\'' = false := isDigit_sign (by simp [signs])
      simp [numeral?, unsigned?, hdigit] at h
    · simp [quotation?, hc]

/-- An operand stays the same. -/
theorem operand?_append {cs text rest suffix : List Char} (h : operand? cs = some (text, rest))
    (hstops : Stops suffix) : operand? (cs ++ suffix) = some (text, rest ++ suffix) := by
  rcases Option.or_eq_some_iff.1 h with h | ⟨-, h⟩
  · rw [operand?, quotation?_append h]
    rfl
  · rw [operand?, quotation?_eq_none_of_numeral? h, numeral?_append h hstops]
    rfl

/-- White space in front of an operand stays the same. -/
theorem spacedOperand?_append {cs text rest suffix : List Char}
    (h : spacedOperand? cs = some (text, rest)) (hstops : Stops suffix) :
    spacedOperand? (cs ++ suffix) = some (text, rest ++ suffix) := by
  obtain ⟨⟨text', rest'⟩, ho, heq⟩ := Option.map_eq_some_iff.1 h
  cases heq
  -- An operand stands behind the white space, so that does not go on in what follows.
  obtain ⟨htake, hdrop⟩ := takeWhile_append_of_stops (p := isBlank) cs suffix
    fun hnil => by rw [hnil] at ho; cases ho
  rw [spacedOperand?, htake, hdrop, operand?_append ho hstops]
  rfl

/-- No operand starts with the sign that some comparators end in. -/
theorem head?_ne_of_spacedOperand? {cs text rest : List Char}
    (h : spacedOperand? cs = some (text, rest)) : cs.head? ≠ some '=' := by
  intro hhead
  obtain ⟨cs, rfl⟩ := List.head?_eq_some_iff.1 hhead
  have hblank : isBlank '=' = false := isBlank_sign (by simp [signs])
  have hdigit : isDigit '=' = false := isDigit_sign (by simp [signs])
  simp [spacedOperand?, operand?, quotation?, numeral?, unsigned?, hblank, hdigit] at h

/-- What a word is in front of follows it. -/
theorem after?_self (word rest : List Char) : after? word (word ++ rest) = some rest := by
  simp [after?]

/-- Of the comparators the one that stands there whole is taken, if what follows goes on none. A
longer one does not fit, and a shorter one leaves the sign that it lacks, with which nothing is read
that is not read without it. -/
theorem findSome?_symbols {β : Type} {symbol : String} (h : symbol ∈ Comparator.symbols)
    {behind : List Char} (hbehind : behind.head? ≠ some '=')
    (read : String → List Char → Option β)
    (hshorter : ∀ shorter, read symbol behind = none → read shorter ('=' :: behind) = none) :
    (Comparator.symbols.findSome? fun tried =>
      (after? tried.toList (symbol.toList ++ behind)).bind (read tried)) = read symbol behind := by
  have hlonger (c : Char) : after? [c, '='] (c :: behind) = none := by
    cases behind with
    | nil => simp [after?, List.isPrefixOf]
    | cons d ds =>
      have hd : d ≠ '=' := by simpa using hbehind
      simp [after?, List.isPrefixOf, hd.symm]
  simp only [Comparator.symbols, List.mem_cons, List.not_mem_nil, or_false] at h
  rcases h with rfl | rfl | rfl | rfl | rfl <;> cases hread : read _ behind <;>
    simp_all [Comparator.symbols, after?, List.isPrefixOf]

/-- A comparison is a symbol with an operand behind it. -/
theorem exists_of_comparison? {cs text rest : List Char}
    (h : comparison? cs = some (text, rest)) :
    ∃ symbol ∈ Comparator.symbols, ∃ behind operand, cs = symbol.toList ++ behind ∧
      spacedOperand? behind = some (operand, rest) ∧ text = symbol.toList ++ operand := by
  obtain ⟨symbol, hsymbol, hfits⟩ := List.exists_of_findSome?_eq_some h
  simp only [Option.bind_eq_bind, Option.bind_eq_some_iff, Option.pure_def,
    Option.some.injEq, Prod.mk.injEq] at hfits
  obtain ⟨behind, hafter, ⟨operand, rest'⟩, hoperand, rfl, rfl⟩ := hfits
  exact ⟨symbol, hsymbol, behind, operand, eq_append_of_after? hafter, hoperand, rfl⟩

/-- A symbol with an operand behind it is a comparison. -/
theorem comparison?_symbol {symbol : String} (hsymbol : symbol ∈ Comparator.symbols)
    {behind operand rest : List Char} (hoperand : spacedOperand? behind = some (operand, rest)) :
    comparison? (symbol.toList ++ behind) = some (symbol.toList ++ operand, rest) := by
  have hfound := findSome?_symbols hsymbol (head?_ne_of_spacedOperand? hoperand)
    (fun symbol behind => (spacedOperand? behind).bind fun found : List Char × List Char =>
      some (symbol.toList ++ found.1, found.2))
    fun _ hnone => by simp [hoperand] at hnone
  rw [hoperand, Option.bind_some] at hfound
  exact hfound

/-- A comparison stays the same. -/
theorem comparison?_append {cs text rest suffix : List Char}
    (h : comparison? cs = some (text, rest)) (hstops : Stops suffix) :
    comparison? (cs ++ suffix) = some (text, rest ++ suffix) := by
  obtain ⟨symbol, hsymbol, behind, operand, rfl, hoperand, rfl⟩ := exists_of_comparison? h
  rw [List.append_assoc]
  exact comparison?_symbol hsymbol (spacedOperand?_append hoperand hstops)

/-- A clause stays the same. -/
theorem clause?_append {cs text rest suffix : List Char} (h : clause? cs = some (text, rest))
    (hstops : Stops suffix) : clause? (cs ++ suffix) = some (text, rest ++ suffix) := by
  unfold clause? at h ⊢
  split at h
  · cases h
  · next hfield =>
    obtain ⟨⟨text', rest'⟩, hc, heq⟩ := Option.map_eq_some_iff.1 h
    cases heq
    -- A comparison stands behind the field and the white space.
    have hbehind : (cs.dropWhile isWord).dropWhile isBlank ≠ [] := fun hnil => by
      rw [hnil] at hc
      cases hc
    obtain ⟨hgap, hrest⟩ := takeWhile_append_of_stops (p := isBlank) (cs.dropWhile isWord)
      suffix fun hnil => absurd hnil hbehind
    obtain ⟨hword, hdrop⟩ := takeWhile_append_of_stops (p := isWord) cs suffix
      fun hnil => absurd (by rw [hnil]; rfl) hbehind
    rw [hword, hdrop, hgap, hrest, if_neg hfield, comparison?_append hc hstops]
    rfl

/-- A clause starts with a word. -/
theorem clause?_eq_none {c : Char} (h : isWord c = false) (cs : List Char) :
    clause? (c :: cs) = none := by
  simp [clause?, h]

/-! ## Lexemes -/

/-- The keyword `AND` is a word. -/
theorem isWord_of_mem_and : ∀ c ∈ "AND".toList, isWord c = true :=
  List.all_eq_true.1 (by decide +kernel)

/-- The keyword `OR` is a word. -/
theorem isWord_of_mem_or : ∀ c ∈ "OR".toList, isWord c = true :=
  List.all_eq_true.1 (by decide +kernel)

/-- A keyword starts with a word character. -/
theorem keyword?_eq_none {word : String} (hword : ∀ x ∈ word.toList, isWord x = true)
    (hne : word.toList ≠ []) (before : Option Char) {c : Char} (hc : isWord c = false)
    (cs : List Char) : keyword? word before (c :: cs) = none := by
  cases hfound : keyword? word before (c :: cs) with
  | none => rfl
  | some rest =>
    have heq := eq_append_of_keyword? hfound
    obtain ⟨w, ws, hw⟩ := List.exists_cons_of_ne_nil hne
    rw [hw] at heq hword
    cases heq
    rw [hword c List.mem_cons_self] at hc
    cases hc

/-- No word character follows a keyword. -/
theorem isWord_head?_of_keyword? {word : String} {before : Option Char} {cs rest : List Char}
    (h : keyword? word before cs = some rest) : ∀ c ∈ rest.head?, isWord c = false := by
  unfold keyword? at h
  split at h
  · cases h
  · obtain ⟨-, hends⟩ := Option.filter_eq_some_iff.1 h
    intro c hc
    obtain ⟨cs, rfl⟩ := List.head?_eq_some_iff.1 hc
    simpa [endsWord] using hends

/-- A word is not a keyword that it differs from. -/
theorem keyword?_eq_none_of_ne {word : String} (hword : ∀ x ∈ word.toList, isWord x = true)
    {field rest : List Char} (hfield : ∀ c ∈ field, isWord c = true) (hne : field ≠ word.toList)
    (hrest : ∀ c ∈ rest.head?, isWord c = false) (before : Option Char) :
    keyword? word before (field ++ rest) = none := by
  cases hfound : keyword? word before (field ++ rest) with
  | none => rfl
  | some after =>
    -- The longest word in front is the field, and it is the keyword.
    have heq := eq_append_of_keyword? hfound
    have hlongest :=
      (takeWhile_append_of_forall hword after (isWord_head?_of_keyword? hfound)).1
    rw [← heq, (takeWhile_append_of_forall hfield rest hrest).1] at hlongest
    exact absurd hlongest hne

/-- Where no word starts there is a parenthesis or no lexeme. -/
theorem atStart?_of_not_isWord (before : Option Char) {c : Char} (hc : isWord c = false)
    (cs : List Char) :
    atStart? before (c :: cs) =
      if c = '(' then some (.openParen, ['('], cs)
      else if c = ')' then some (.closeParen, [')'], cs)
      else none := by
  have hand := keyword?_eq_none isWord_of_mem_and (by decide) before hc cs
  have hor := keyword?_eq_none isWord_of_mem_or (by decide) before hc cs
  by_cases hopen : c = '('
  · subst hopen
    simp only [atStart?, hand, hor, if_true]
  · by_cases hclose : c = ')'
    · subst hclose
      simp only [atStart?, hand, hor, if_true, hopen, if_false]
    · simp [atStart?, hand, hor, hopen, hclose, clause?_eq_none hc]

/-- No lexeme starts with white space. -/
theorem atStart?_of_isBlank (before : Option Char) {c : Char} (hc : isBlank c = true)
    (cs : List Char) : atStart? before (c :: cs) = none := by
  have hopen : c ≠ '(' := ne_of_class hc (isBlank_sign (by simp [signs]))
  have hclose : c ≠ ')' := ne_of_class hc (isBlank_sign (by simp [signs]))
  rw [atStart?_of_not_isWord before (isWord_of_isBlank hc), if_neg hopen, if_neg hclose]

/-- Where no keyword stands a clause is a lexeme. -/
theorem atStart?_of_clause? {before : Option Char} {cs text rest : List Char}
    (hand : keyword? "AND" before cs = none) (hor : keyword? "OR" before cs = none)
    (h : clause? cs = some (text, rest)) : atStart? before cs = some (.clause, text, rest) := by
  simp only [atStart?, hand, hor]
  -- A parenthesis starts no clause.
  split
  · rw [clause?_eq_none (isWord_sign (by simp [signs]))] at h
    cases h
  · rw [clause?_eq_none (isWord_sign (by simp [signs]))] at h
    cases h
  · rw [h]
    rfl

/-- A keyword with word boundaries on both sides is a lexeme. -/
theorem atStart?_keyword {before : Option Char} (hbefore : before.any isWord = false)
    {rest : List Char} (hrest : endsWord rest = true) {k : Connective} (hk : k ∈ [.and, .or]) :
    atStart? before (k.keyword.toList ++ rest) =
      some (.keyword k, k.keyword.toList, rest) := by
  have hkeyword (word : String) : keyword? word before (word.toList ++ rest) = some rest := by
    rw [keyword?, hbefore, if_neg (by decide), after?_self, Option.filter_some, if_pos hrest]
  simp only [List.mem_cons, List.not_mem_nil, or_false] at hk
  rcases hk with rfl | rfl
  · have hand := hkeyword "AND"
    simp only [atStart?, Connective.keyword, hand]
  · have hand : keyword? "AND" before ("OR".toList ++ rest) = none := by
      simp [keyword?, after?]
    have hor := hkeyword "OR"
    simp only [atStart?, Connective.keyword, hand, hor]

/-- A lexeme stays the same when more follows that goes on no word and no numeral. -/
theorem atStart?_append {before : Option Char} {cs text rest suffix : List Char} {lexeme : Lexeme}
    (h : atStart? before cs = some (lexeme, text, rest)) (hstops : Stops suffix) :
    atStart? before (cs ++ suffix) = some (lexeme, text, rest ++ suffix) := by
  have hand := keyword?_append isWord_of_mem_and before cs hstops
  have hor := keyword?_append isWord_of_mem_or before cs hstops
  unfold atStart? at h
  split at h
  · next hfound =>
    rw [hfound] at hand
    cases h
    simp only [atStart?, hand, Option.map_some]
  · next hnoAnd =>
    rw [hnoAnd] at hand
    split at h
    · next hfound =>
      rw [hfound] at hor
      cases h
      simp only [atStart?, hand, hor, Option.map_some, Option.map_none]
    · next hnoOr =>
      rw [hnoOr] at hor
      split at h
      · cases h
        rw [List.cons_append] at hand hor ⊢
        simp only [atStart?, hand, hor, Option.map_none]
      · cases h
        rw [List.cons_append] at hand hor ⊢
        simp only [atStart?, hand, hor, Option.map_none]
      · obtain ⟨⟨text', rest'⟩, hclause, heq⟩ := Option.map_eq_some_iff.1 h
        cases heq
        exact atStart?_of_clause? hand hor (clause?_append hclause hstops)

/-- What a lexeme at the start is made of. -/
theorem atStart?_cases {before : Option Char} {cs text rest : List Char} {lexeme : Lexeme}
    (h : atStart? before cs = some (lexeme, text, rest)) :
    (∃ k ∈ [.and, .or], lexeme = .keyword k ∧ text = k.keyword.toList) ∨
      (lexeme = .openParen ∧ text = ['(']) ∨ (lexeme = .closeParen ∧ text = [')']) ∨
        (lexeme = .clause ∧ clause? cs = some (text, rest)) := by
  unfold atStart? at h
  split at h
  · cases h
    exact .inl ⟨.and, by decide, rfl, rfl⟩
  · split at h
    · cases h
      exact .inl ⟨.or, by decide, rfl, rfl⟩
    · split at h
      · cases h
        exact .inr (.inl ⟨rfl, rfl⟩)
      · cases h
        exact .inr (.inr (.inl ⟨rfl, rfl⟩))
      · obtain ⟨⟨text', rest'⟩, hclause, heq⟩ := Option.map_eq_some_iff.1 h
        cases heq
        exact .inr (.inr (.inr ⟨rfl, hclause⟩))

/-- What stands in front matters only by being a word character or not. -/
theorem atStart?_congr {before before' : Option Char} (h : before.any isWord = before'.any isWord)
    (cs : List Char) : atStart? before cs = atStart? before' cs := by
  unfold atStart? keyword?
  rw [h]

end Rulebook.Lexeme
