import Rulebook.Proofs.Evaluation
import Rulebook.Proofs.Parentheses
import Rulebook.Proofs.Rounding
import Rulebook.Proofs.Spacing

/-!
# Rules about integers

A rule that compares a field with an integer, where the field has an integer in the record. Both are
rounded before they are compared, and a numeral may spell an integer in many ways, with zeros in
front and behind a point (`Bare.Spells`). Still the rule never says of two integers that one is
greater or less if it is not, and always that one is at least or at most the other if it is; up to
53 bits every comparator is right (`Clause.isMatch_of_integers`).

A text of one clause is compiled to the condition that the clause states and to nothing else, unless
its field is a keyword, where it is no rule (`Clause.compile_eq_ok_iff`).
-/

namespace Rulebook

open Text

/-! ## Numerals of integers -/

/-- A numeral in ASCII digits whose value is an integer. In the digits of another script a numeral
is a text and no number. -/
structure Bare.Spells (n : Bare) (i : Int) : Prop where
  isAscii : n.IsAscii
  value_eq : Double.signed n.negative (Numeral.natValue n.digits) = i * Nat.pow 10 n.frac.length

namespace Bare

/-- The value of a numeral is not a NaN. -/
theorem isNaN_value (n : Bare) : n.value.isNaN = false := Double.isNaN_ofRatio _ _ _

/-- A numeral of an integer has the level of the integer. -/
theorem Spells.level_value {n : Bare} {i : Int} (h : n.Spells i) :
    n.value.level = (Double.ofInt i).level := by
  have hpow : 0 < Nat.pow 10 n.frac.length := Nat.pow_pos (by decide)
  have hdigits : Numeral.natValue n.digits = i.natAbs * Nat.pow 10 n.frac.length := by
    rw [← Double.natAbs_signed n.negative (Numeral.natValue n.digits), h.value_eq, Int.natAbs_mul,
      Int.natAbs_natCast]
  have hsigned : Double.signed n.negative i.natAbs = i := by
    have heq := h.value_eq
    rw [hdigits, Double.signed_mul] at heq
    exact Int.eq_of_mul_eq_mul_right (Int.ne_of_gt (Int.natCast_pos.2 hpow)) heq
  have hvalue : n.value = .ofRatio n.negative (i.natAbs * unitsPerOne) 1 := by
    refine Double.ofRatio_eq_of_mul_eq _ hpow Nat.one_pos ?_
    rw [hdigits, Nat.mul_one, Nat.mul_right_comm]
  calc n.value.level
      = (Double.ofRatio n.negative (i.natAbs * unitsPerOne) 1).level := by rw [hvalue]
    _ = (Double.ofInt (Double.signed n.negative i.natAbs)).level :=
        (Double.level_ofInt_signed _ _).symm
    _ = (Double.ofInt i).level := by rw [hsigned]

/-- The text of a numeral in ASCII digits stands for the value of the numeral. -/
theorem textNumber_chars {n : Bare} (h : n.IsAscii) :
    textNumber (String.ofList n.chars) = n.value := by
  obtain ⟨hne, hhead, hlast⟩ := (Operand.bare n).isOperand_chars.isBlank_ends
  have htrim : trim n.chars = n.chars := trim_eq_self hhead hlast
  have hempty : n.chars.isEmpty = false := List.isEmpty_eq_false_iff.2 hne
  have hread : Double.read? n.chars = some n.value := by rw [n.read?_chars, if_pos h]
  unfold textNumber
  rw [String.toList_ofList, htrim]
  dsimp only
  rw [hempty, hread, if_neg Bool.false_ne_true, Option.getD_some]

/-- The literal of a numeral in ASCII digits stands for the value of the numeral, also if it is too
large for a number and stays a text. -/
theorem asNumber_literal {n : Bare} (h : n.IsAscii) : n.literal.asNumber = n.value := by
  unfold literal
  split
  · rfl
  · exact textNumber_chars h

end Bare

/-! ## Rules of one clause -/

/-- No lexeme starts with a comparator. -/
theorem Lexeme.atStart?_symbol {symbol : String} (h : symbol ∈ Comparator.symbols)
    (before : Option Char) (rest : List Char) :
    atStart? before (symbol.toList ++ rest) = none := by
  have hsign {c : Char} (hc : c ∈ ['<', '>', '=']) (cs : List Char) :
      atStart? before (c :: cs) = none := by
    have hword : isWord c = false := isWord_sign (by
      simp only [List.mem_cons, List.not_mem_nil, or_false] at hc
      rcases hc with rfl | rfl | rfl <;> simp [signs])
    have hparen : c ≠ '(' ∧ c ≠ ')' := by
      simp only [List.mem_cons, List.not_mem_nil, or_false] at hc
      rcases hc with rfl | rfl | rfl <;> decide
    rw [atStart?_of_not_isWord before hword, if_neg hparen.1, if_neg hparen.2]
  simp only [Comparator.symbols, List.mem_cons, List.not_mem_nil, or_false] at h
  rcases h with rfl | rfl | rfl | rfl | rfl
  · exact hsign (c := '<') (by simp) ('=' :: rest)
  · exact hsign (c := '>') (by simp) ('=' :: rest)
  · exact hsign (c := '<') (by simp) rest
  · exact hsign (c := '>') (by simp) rest
  · exact hsign (c := '=') (by simp) rest

namespace Token

open Lexeme

/-- Where the white space in front of a text with tokens ends there is a lexeme. -/
theorem Scans.exists_atStart?_eq {before : Option Char} {position : Nat} {gap cs : List Char}
    {c : Char} {tokens : List Token} (h : Scans before position (gap ++ c :: cs) tokens)
    (blank : ∀ c ∈ gap, isBlank c = true) (hc : isBlank c = false) :
    ∃ found, atStart? (lastOf before gap) (c :: cs) = some found := by
  obtain ⟨htake, hdrop⟩ := takeWhile_append_of_forall blank (c :: cs) (by
    rintro _ ⟨⟩
    exact hc)
  generalize gap ++ c :: cs = whole at h htake hdrop
  cases h with
  | blank blank' =>
    -- A text that is blank has no character that is not.
    rw [List.dropWhile_eq_nil_iff.2 blank'] at hdrop
    cases hdrop
  | @lexeme _ _ gap' text rest _ _ _ blank' found _ _ =>
    have hhead : ∀ d ∈ (text ++ rest).head?, isBlank d = false := by
      intro d hd
      obtain ⟨ds, hds⟩ := List.head?_eq_some_iff.1 hd
      cases hblank : isBlank d with
      | false => rfl
      | true =>
        -- No lexeme starts with white space.
        rw [hds, atStart?_of_isBlank _ hblank] at found
        cases found
    obtain ⟨htake', hdrop'⟩ := takeWhile_append_of_forall blank' (text ++ rest) hhead
    rw [← htake, ← hdrop, htake', hdrop']
    exact ⟨_, found⟩

/-- No text with tokens starts with a comparator. -/
theorem not_scans_symbol {before : Option Char} {position : Nat} {gap rest : List Char}
    {symbol : String} {tokens : List Token} (hsymbol : symbol ∈ Comparator.symbols)
    (blank : ∀ c ∈ gap, isBlank c = true) :
    ¬ Scans before position (gap ++ (symbol.toList ++ rest)) tokens := by
  intro h
  have hnone := atStart?_symbol hsymbol (lastOf before gap) rest
  obtain ⟨c, cs, heq, -, hblank⟩ := exists_symbol_eq_cons hsymbol
  rw [heq, List.cons_append] at h hnone
  obtain ⟨found, hfound⟩ := h.exists_atStart?_eq blank hblank
  rw [hnone] at hfound
  cases hfound

end Token

namespace Clause

open Lexeme

/-- The text is the clause with white space around it, if any. -/
def IsWhole (k : Clause) (source : String) : Prop :=
  ∃ front behind, (∀ c ∈ front, isBlank c = true) ∧ (∀ c ∈ behind, isBlank c = true) ∧
    source.toList = front ++ (k.chars ++ behind)

variable {k : Clause} {source : String}

/-- A text of one clause without a line feed is a rule if the field is no keyword. -/
theorem compile_eq_leaf (whole : k.IsWhole source) (hline : ¬ k.operand.HasLineFeed)
    (hand : k.field ≠ "AND".toList) (hor : k.field ≠ "OR".toList) :
    compile source = .ok (.leaf k.condition) := by
  obtain ⟨front, behind, blank, blank', hsource⟩ := whole
  have hstops : Stops behind :=
    Token.stops_of_isBlank fun c hc => blank' c (List.mem_of_mem_head? hc)
  have found := k.isClause.atStart?_eq hand hor hstops (lastOf none front)
  have kindOf_eq : Token.kindOf .clause k.chars (0 + front.length) =
      .ok (.condition k.condition) := by
    rw [Token.kindOf, k.ofClause_chars, if_neg (mt k.operand.lineFeed_mem_chars_iff.1 hline)]
    rfl
  have scanned : Token.Scans none 0 source.toList
      [⟨.condition k.condition, 0 + front.length⟩] := by
    rw [hsource]
    exact .lexeme blank found kindOf_eq (.blank blank')
  rw [compile_of_scan (Token.scans_iff.1 scanned)]
  rfl

/-- A text of one clause is no rule if the field is a keyword. -/
theorem compile_ne_ok (word : Connective) (whole : k.IsWhole source) (hword : word ∈ [.and, .or])
    (hfield : k.field = word.keyword.toList) (t : Tree) : compile source ≠ .ok t := by
  intro compiled
  obtain ⟨front, behind, blank, blank', hsource⟩ := whole
  obtain ⟨tokens, -, scanned, -, -⟩ := exists_of_compile_eq_ok compiled
  have hscans := Token.scans_iff.2 scanned
  have hsymbol := Comparator.symbol_mem_symbols k.isSupported
  rw [hsource, chars, hfield] at hscans
  simp only [List.append_assoc] at hscans
  -- The field is the first token, and a comparator is left in front.
  have hends : endsWord (k.gap ++ (k.comparator.symbol.toList ++
      (k.gap' ++ (k.operand.chars ++ behind)))) = true :=
    endsWord_eq_true (isWord_head?_of_blank k.isBlank_of_mem_gap hsymbol)
  have found := atStart?_keyword (Token.isWord_lastOf_none blank) hends hword
  obtain ⟨_, _, -, hfollows, -⟩ := hscans.exists_of_atStart? blank found
  exact Token.not_scans_symbol hsymbol k.isBlank_of_mem_gap hfollows

/-- A text of one clause without a line feed is a rule unless the field is a keyword, and the rule
is the condition that the clause states. -/
theorem compile_eq_ok_iff (whole : k.IsWhole source) (hline : ¬ k.operand.HasLineFeed) {t : Tree} :
    compile source = .ok t ↔
      (k.field ≠ "AND".toList ∧ k.field ≠ "OR".toList) ∧ t = .leaf k.condition := by
  constructor
  · intro compiled
    have hand : k.field ≠ "AND".toList := fun hfield =>
      compile_ne_ok .and whole (by decide) hfield t compiled
    have hor : k.field ≠ "OR".toList := fun hfield =>
      compile_ne_ok .or whole (by decide) hfield t compiled
    rw [compile_eq_leaf whole hline hand hor] at compiled
    exact ⟨⟨hand, hor⟩, (Except.ok.inj compiled).symm⟩
  · rintro ⟨⟨hand, hor⟩, rfl⟩
    exact compile_eq_leaf whole hline hand hor

variable {n : Bare} {a b : Int} {record : Record}
  {inRange : -0x8000000000000000 ≤ a ∧ a < 0x10000000000000000}

/-- A clause about an integer holds of an integer if and only if its comparator says so of the
levels of both. -/
theorem holds_condition_iff (operand : k.operand = .bare n) (spells : n.Spells b)
    (value : Json.member? (String.ofList k.field) record = some (.number (.integer a inRange))) :
    k.condition.holds record = true ↔
      k.comparator.relates (Double.ofInt a).level (Double.ofInt b).level := by
  have hnumber : k.operand.literal.asNumber = n.value := by
    rw [operand]
    exact Bare.asNumber_literal spells.isAscii
  have hnan : (Json.Number.integer a inRange).toDouble.isNaN = false := Double.isNaN_ofInt a
  have hnan' : k.operand.literal.asNumber.isNaN = false := by rw [hnumber, n.isNaN_value]
  have hiff := Comparator.holds_number_iff hnan hnan' k.comparator
  rw [hnumber, spells.level_value] at hiff
  rw [Condition.holds, condition, value]
  exact hiff

/-- In a rule that compares a field with an integer the comparators greater and less hold between
integers only if they are right, the others hold if they are right, and up to 53 bits every
comparator holds if and only if it is right. Such a text is a rule unless its field is a keyword. -/
theorem isMatch_of_integers
    (whole : k.IsWhole source) (operand : k.operand = .bare n) (spells : n.Spells b)
    (value : Json.member? (String.ofList k.field) record = some (.number (.integer a inRange))) :
    ((∃ t, compile source = .ok t) ↔ k.field ≠ "AND".toList ∧ k.field ≠ "OR".toList) ∧
      ∀ t, compile source = .ok t → ∀ traced,
        (k.comparator ∈ [.gt, .lt] → (t.execute traced record).isMatch = true →
          k.comparator.relates a b) ∧
        (k.comparator ∈ [.ge, .le, .eq] → k.comparator.relates a b →
          (t.execute traced record).isMatch = true) ∧
        (a.natAbs ≤ Nat.pow 2 53 → b.natAbs ≤ Nat.pow 2 53 →
          ((t.execute traced record).isMatch = true ↔ k.comparator.relates a b)) := by
  have hline : ¬ k.operand.HasLineFeed := by
    rw [operand]
    exact not_false
  have hcompile (t : Tree) := compile_eq_ok_iff (t := t) whole hline
  refine ⟨⟨fun ⟨t, compiled⟩ => ((hcompile t).1 compiled).1,
    fun hfield => ⟨_, (hcompile _).2 ⟨hfield, rfl⟩⟩⟩, fun t compiled traced => ?_⟩
  obtain ⟨-, rfl⟩ := (hcompile t).1 compiled
  rw [Tree.isMatch_execute, Tree.holds, holds_condition_iff operand spells value]
  exact ⟨Comparator.relates_of_level_ofInt, Comparator.relates_level_ofInt,
    Comparator.relates_level_ofInt_iff⟩

/-- Neighbours above 53 bits may be rounded to one number, where the one is still at least the other
and not less than it. -/
theorem isMatch_of_integers_neighbours :
    (∃ t, compile "n>= -9007199254740993.0\n" = .ok t ∧ ∀ traced,
      (t.execute traced
        [("n", .number (.integer (-9007199254740992) (by decide)))]).isMatch = true) ∧
      ∃ t, compile "n<9007199254740992" = .ok t ∧ ∀ traced,
        (t.execute traced
          [("n", .number (.integer 9007199254740993 (by decide)))]).isMatch = false ∧
        (t.execute traced
          [("n", .number (.integer 9007199254740991 (by decide)))]).isMatch = true := by
  let lower : Bare := ⟨true, "9007199254740993".toList, ['0'], by decide +kernel,
    List.all_eq_true.1 (by decide +kernel), List.all_eq_true.1 (by decide +kernel)⟩
  let upper : Bare := ⟨false, "9007199254740992".toList, [], by decide +kernel,
    List.all_eq_true.1 (by decide +kernel), by simp⟩
  have lowerSpells : lower.Spells (-9007199254740993) := ⟨by decide +kernel, by decide +kernel⟩
  have upperSpells : upper.Spells 9007199254740992 := ⟨by decide +kernel, by decide +kernel⟩
  let atLeast : Clause := ⟨['n'], [], .ge, [' '], .bare lower, by simp,
    List.all_eq_true.1 (by decide +kernel), by simp, rfl, isBlank_of_mem_space⟩
  let less : Clause := ⟨['n'], [], .lt, [], .bare upper, by simp,
    List.all_eq_true.1 (by decide +kernel), by simp, rfl, by simp⟩
  have atLeastWhole : atLeast.IsWhole "n>= -9007199254740993.0\n" :=
    ⟨[], ['\n'], by simp, List.all_eq_true.1 (by decide +kernel), by decide +kernel⟩
  have lessWhole : less.IsWhole "n<9007199254740992" :=
    ⟨[], [], by simp, by simp, by decide +kernel⟩
  have value (n : Json.Number) :
      Json.member? (String.ofList ['n']) [("n", .number n)] = some (.number n) := rfl
  refine ⟨?_, ?_⟩
  · obtain ⟨compiles, order⟩ := isMatch_of_integers atLeastWhole rfl lowerSpells
      (value (.integer (-9007199254740992) (by decide)))
    obtain ⟨t, compiled⟩ := compiles.2 (by decide)
    exact ⟨t, compiled, fun traced => (order t compiled traced).2.1 (by simp [atLeast])
      (by simp [atLeast, Comparator.relates])⟩
  · obtain ⟨compiles, order⟩ := isMatch_of_integers lessWhole rfl upperSpells
      (value (.integer 9007199254740993 (by decide)))
    obtain ⟨-, order'⟩ := isMatch_of_integers lessWhole rfl upperSpells
      (value (.integer 9007199254740991 (by decide)))
    obtain ⟨t, compiled⟩ := compiles.2 (by decide)
    refine ⟨t, compiled, fun traced => ⟨?_, ?_⟩⟩
    · -- A match would say that the greater one is less.
      refine Bool.eq_false_iff.2 fun h => ?_
      have hlt := (order t compiled traced).1 (by simp [less]) h
      simp [less, Comparator.relates] at hlt
    · exact ((order' t compiled traced).2.2 (by decide) (by decide)).2
        (by simp [less, Comparator.relates])

end Clause

end Rulebook
