import Rulebook.Proofs.Groups
import Rulebook.Proofs.Splitting
import Rulebook.Proofs.Transmission

/-!
# Printed rules are read back

The text of a tree is compiled to an equal tree (`compile_text`), if the tree is one that rule
texts can have, is not too deep, and has no field that is a keyword. The literal of a condition is
read back without the sign of a zero, so the tree that comes back is the one that also comes back
from JSON.

The text of a condition is one lexeme from end to end (`Condition.atStart?_chars`), whatever stands
in front of it: its field is no keyword, and the field, the comparator and the literal are split
where they were put together. The text of a join is the texts of its sides between parentheses, and
it spells what these spell.
-/

namespace Rulebook

open Text

/-! ## Literals -/

namespace Literal

/-- A finite number is written as a plain numeral, which is read as the number without the sign of a
zero. -/
theorem exists_plain {x : Double} (h : x.isFinite = true) :
    ∃ n : Numeral.Plain, (number x).chars = n.chars ∧ n.decimal.toDouble = x.dropZeroSign := by
  rw [chars]
  cases hwhole : whole? x with
  | some i =>
    obtain ⟨n, hchars, hdecimal⟩ :=
      Numeral.Plain.exists_chars_eq_positional ⟨decide (i.val < 0), i.val.natAbs, 0⟩
    have hbits : i.val.natAbs ≤ Nat.pow 2 53 := Nat.le_of_lt (Nat.lt_trans i.property (by decide))
    refine ⟨n, ?_, ?_⟩
    · rw [hchars]
      simp [Json.intChars, Decimal.positional, Decimal.signChars, Decimal.digitChars]
    · rw [hdecimal, ← Double.ofInt_of_whole? (double_whole?_of_whole? hwhole) hbits,
        Decimal.toDouble_eq, Double.ofInt]
      change Double.ofRatio _ (i.val.natAbs * 1 * unitsPerOne) 1 = _
      rw [Nat.mul_one]
  | none =>
    cases x with
    | nan => cases h
    | infinite negative => cases h
    | finite negative units hunits =>
      have hne := ne_zero_of_whole?_eq_none hwhole
      obtain ⟨n, hchars, hdecimal⟩ :=
        Numeral.Plain.exists_chars_eq_positional (Double.shortest .up negative units hunits)
      refine ⟨n, ?_, ?_⟩
      · rw [hchars, Double.plain, String.toList_ofList]
      · rw [hdecimal, Double.toDouble_shortest]
        simp [Double.dropZeroSign, hne]

/-- The text of a literal is an operand without a line feed, and the operand stands for the literal
without the sign of a zero. -/
theorem exists_operand {l : Literal} (h : l.Written) :
    ∃ o : Operand, o.chars = l.chars ∧ o.literal = l.dropZeroSign ∧ ¬ o.HasLineFeed := by
  cases l with
  | number x =>
    obtain ⟨n, hchars, hdecimal⟩ := exists_plain h
    have hfinite : x.dropZeroSign.isFinite = true := by
      cases x with
      | finite => rfl
      | nan => cases h
      | infinite => cases h
    refine ⟨.bare (.ofPlain n), hchars.symm, ?_, not_false⟩
    rw [Operand.literal, Bare.literal, ← Bare.toDouble_decimal, hdecimal,
      if_pos ⟨Bare.isAscii_ofPlain n, hfinite⟩, dropZeroSign]
  | text s =>
    refine ⟨.quoted s.toList fun c hc => (h c hc).1, rfl, ?_, fun hline => (h _ hline).2 rfl⟩
    rw [Operand.literal, String.ofList_toList, dropZeroSign]

end Literal

/-! ## Conditions -/

namespace Condition

variable {c : Condition}

/-- The text of a condition is a clause that states the condition and has no line feed between
quotes. -/
theorem exists_clause (h : c.Written) : ∃ k : Clause, k.field = c.field.toList ∧
    k.chars = c.chars ∧ k.condition = c.sent ∧ ¬ k.operand.HasLineFeed := by
  obtain ⟨o, hchars, hliteral, hline⟩ := Literal.exists_operand h.literal
  refine ⟨⟨c.field.toList, [' '], c.comparator, [' '], o, by simpa using h.field_ne_empty,
    h.isWord_of_mem, isBlank_of_mem_space, h.isSupported, isBlank_of_mem_space⟩, rfl, ?_, ?_, hline⟩
  · rw [Clause.chars, hchars]
    rfl
  · rw [Clause.condition, hliteral, String.ofList_toList, sent,
      Comparator.ofSymbol_symbol h.isSupported]

/-- The text of a condition is a clause with its field. -/
theorem isClause_chars (h : c.Written) : Lexeme.IsClause c.field.toList c.chars := by
  obtain ⟨k, hfield, hchars, -, -⟩ := exists_clause h
  rw [← hfield, ← hchars]
  exact k.isClause

/-- The text of a condition is one lexeme, whatever stands in front of it and behind it. -/
theorem atStart?_chars {suffix : List Char} (h : c.Written) (hand : c.field ≠ "AND")
    (hor : c.field ≠ "OR") (hstops : Lexeme.Stops suffix) (before : Option Char) :
    Lexeme.atStart? before (c.chars ++ suffix) = some (.clause, c.chars, suffix) :=
  (isClause_chars h).atStart?_eq (by rwa [ne_eq, String.toList_inj])
    (by rwa [ne_eq, String.toList_inj]) hstops before

/-- The text of a condition spells the condition, whatever stands in front of it. -/
theorem spells_chars (h : c.Written) (hand : c.field ≠ "AND") (hor : c.field ≠ "OR")
    (before : Option Char) : Token.Spells before c.chars [.condition c.sent] := by
  have hkind : Token.kindOf .clause c.chars 0 = .ok (.condition c.sent) := by
    obtain ⟨k, -, hchars, hcondition, hline⟩ := exists_clause h
    rw [Token.kindOf, ← hchars, k.ofClause_chars,
      if_neg (mt k.operand.lineFeed_mem_chars_iff.1 hline), hcondition]
    rfl
  have hstops : Lexeme.Stops [] := by simp [Lexeme.Stops]
  have hspells :=
    Token.Spells.behind_lexeme (atStart?_chars h hand hor hstops before) hkind (.nil _)
  rwa [List.append_nil] at hspells

end Condition

/-! ## Trees -/

/-- What comes back has as many levels. -/
theorem Tree.depth_sent (t : Tree) : t.sent.depth = t.depth := by
  induction t with
  | leaf c => rfl
  | node k left right ihl ihr => rw [sent, depth, depth, ihl, ihr]

/-- The tokens of a printed tree are read to the tree. -/
theorem Tree.exists_spells_chars {t : Tree} (written : t.Written)
    (fields : ∀ c ∈ t.leaves, c.field ≠ "AND" ∧ c.field ≠ "OR") :
    ∃ ts, (∀ before, Token.Spells before t.chars (ts.map (·.kind))) ∧
      Postfix.ReadsTo 3 ts t.sent := by
  induction t with
  | leaf c =>
    obtain ⟨hand, hor⟩ := fields c List.mem_cons_self
    exact ⟨[⟨.condition c.sent, 0⟩],
      Condition.spells_chars (written.leaves c List.mem_cons_self) hand hor,
      Postfix.readsTo_condition c.sent 0 3⟩
  | node k left right ihl ihr =>
    obtain ⟨hk, hleft, hright⟩ := written.of_node
    obtain ⟨hlfields, hrfields⟩ := List.forall_mem_append.1 fields
    obtain ⟨ls, hlspells, hlreads⟩ := ihl hleft hlfields
    obtain ⟨rs, hrspells, hrreads⟩ := ihr hright hrfields
    have hbinds : k ∈ [.and, .or] ∧ 1 ≤ k.precedence ∧ k.precedence + 1 ≤ 3 ∧
        Connective.ofKeyword k.keyword = k := by
      rcases hk with rfl | rfl <;> decide
    obtain ⟨hmem, hlow, hhigh, hkeyword⟩ := hbinds
    have hreads : Postfix.ReadsTo 1 (ls ++ ⟨.connective k, 0⟩ :: rs)
        (.node k left.sent right.sent) :=
      ((hlreads.of_le (Nat.le_of_succ_le hhigh)).join k 0 (hrreads.of_le hhigh)).of_le hlow
    refine ⟨⟨.openParen, 0⟩ :: (ls ++ ⟨.connective k, 0⟩ :: rs ++ [⟨.closeParen, 0⟩]),
      fun before => ?_, ?_⟩
    · have hstops : Lexeme.Stops (' ' :: (k.keyword.toList ++ ' ' :: right.chars)) :=
        Lexeme.stops_cons (isWord_of_isBlank isBlank_space_lineFeed.1) (by decide) _
      have hspells := ((hlspells (some '(')).append hstops
        (Token.Spells.connective hmem (hrspells _))).group before
      simpa [chars] using hspells
    · rw [sent, hkeyword]
      exact hreads.group 0 0

/-- The text of a tree is compiled to an equal tree: of a tree that rule texts can have, of at most
100 levels and without a field that is a keyword. -/
theorem compile_text {t : Tree} (written : t.Written)
    (fields : ∀ c ∈ t.leaves, c.field ≠ "AND" ∧ c.field ≠ "OR") (depth : t.depth ≤ 100) :
    ∃ u, compile t.text = .ok u ∧ u.agrees t = true := by
  obtain ⟨read, finite⟩ := written.isRead
  refine ⟨t.sent, ?_, Tree.sent_agrees read finite⟩
  obtain ⟨ts, hspells, hreads⟩ := Tree.exists_spells_chars written fields
  have hwhole : Token.Spells none t.text.toList (ts.map (·.kind)) := by
    rw [Tree.text, String.toList_ofList]
    exact hspells none
  obtain ⟨tokens, scanned, same⟩ := Token.exists_scan_eq_ok hwhole
  have hdepth : t.sent.depth ≤ Tree.maxDepth := by rwa [Tree.depth_sent]
  exact compile_eq_ok_of_kinds_eq scanned same ((hreads.of_le (by decide)).compiled hdepth)

/-- Fields that start with keywords, a negative fraction, a text with parentheses and comparators in
it, and a negative zero. -/
theorem compile_text_keyword_prefix :
    ∃ u, compile (Tree.node .or
        (.leaf ⟨"ANDROID", .ge, .number (.ofRatio true unitsPerOne 2)⟩)
        (.node .and (.leaf ⟨"b", .le, .text "x AND (y = 1)"⟩)
          (.leaf ⟨"OR_1", .eq, .number .negativeZero⟩))).text = .ok u ∧
      u.agrees (.node .or (.leaf ⟨"ANDROID", .ge, .number (.ofRatio true unitsPerOne 2)⟩)
        (.node .and (.leaf ⟨"b", .le, .text "x AND (y = 1)"⟩)
          (.leaf ⟨"OR_1", .eq, .number .negativeZero⟩))) = true := by
  have half : (⟨"ANDROID", .ge, .number (.ofRatio true unitsPerOne 2)⟩ : Condition).Written :=
    ⟨by decide, List.all_eq_true.1 (by decide +kernel), rfl,
      (by decide +kernel : (Double.ofRatio true unitsPerOne 2).isFinite = true)⟩
  have quoted : (⟨"b", .le, .text "x AND (y = 1)"⟩ : Condition).Written := by
    have hchars : ("x AND (y = 1)".toList.all fun c => c ≠ '\'' && c ≠ '\n') = true := by decide
    exact ⟨by decide, List.all_eq_true.1 (by decide +kernel), rfl,
      fun c hc => by simpa using List.all_eq_true.1 hchars c hc⟩
  have zero : (⟨"OR_1", .eq, .number .negativeZero⟩ : Condition).Written :=
    ⟨by decide, List.all_eq_true.1 (by decide +kernel), rfl, rfl⟩
  refine compile_text ⟨?_, ?_⟩ ?_ (by decide)
  · exact List.forall_mem_cons.2 ⟨half, List.forall_mem_cons.2 ⟨quoted,
      List.forall_mem_singleton.2 zero⟩⟩
  · exact List.forall_mem_cons.2 ⟨.inl rfl, List.forall_mem_singleton.2 (.inr rfl)⟩
  · exact List.forall_mem_cons.2 ⟨by decide, List.forall_mem_cons.2 ⟨by decide,
      List.forall_mem_singleton.2 (by decide)⟩⟩

end Rulebook
