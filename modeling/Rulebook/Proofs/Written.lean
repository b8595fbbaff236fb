import Rulebook.Proofs.Conservation

/-!
# What a rule text can say

A text has more limits than a tree: it joins by `AND` and `OR` only, its fields are words, its
comparators are the supported ones, and its literals are finite numbers or texts without a quote and
without a line feed. `Tree.written_of_compile` says so of every compiled tree, and
`Tree.written_of_combine` of every combined one.
-/

namespace Rulebook

open Text

/-- A literal that a rule text can have. -/
def Literal.Written : Literal → Prop
  | .number x => x.isFinite = true
  | .text s => ∀ c ∈ s.toList, c ≠ '\'' ∧ c ≠ '\n'

/-- A condition that a rule text can have. -/
structure Condition.Written (c : Condition) : Prop where
  field_ne_empty : c.field ≠ ""
  isWord_of_mem : ∀ x ∈ c.field.toList, isWord x = true
  isSupported : c.comparator.isSupported = true
  literal : c.literal.Written

/-- A connective that a rule text can have. -/
def Connective.Written (k : Connective) : Prop := k = .and ∨ k = .or

/-- A tree that a rule text can have. -/
structure Tree.Written (t : Tree) : Prop where
  leaves : ∀ c ∈ t.leaves, c.Written
  connectives : ∀ k ∈ t.connectives, k.Written

/-- A token that a rule text can have. -/
def Token.Kind.Written : Token.Kind → Prop
  | .connective k => k.Written
  | .condition c => c.Written
  | .openParen => True
  | .closeParen => True

/-! ## Conditions -/

/-- Trimming keeps only characters that are there. -/
theorem mem_of_mem_trim {x : Char} {cs : List Char} (h : x ∈ trim cs) : x ∈ cs := by
  have hstart : x ∈ trimStart cs :=
    List.mem_reverse.1 ((List.dropWhile_sublist isBlank).subset (List.mem_reverse.1 h))
  exact (List.dropWhile_sublist isBlank).subset hstart

/-- The literal of a piece without a line feed. -/
theorem Literal.written_ofText {piece : List Char} (h : '\n' ∉ piece) :
    (ofText piece).Written := by
  -- A literal that is no number is the piece without its quotes.
  have hfiltered : (Literal.text (String.ofList ((trim piece).filter (· ≠ '\'')))).Written := by
    intro c hc
    rw [String.toList_ofList, List.mem_filter, decide_eq_true_eq] at hc
    refine ⟨hc.2, ?_⟩
    rintro rfl
    exact h (mem_of_mem_trim hc.1)
  unfold ofText
  dsimp only
  split
  · split
    · assumption
    · exact hfiltered
  · exact hfiltered

/-- The value behind a comparator has no line feed. -/
theorem Condition.not_mem_of_value? {cs value : List Char} (h : value? cs = some value) :
    '\n' ∉ value := by
  unfold value? at h
  dsimp only at h
  split at h
  · cases h
  · rename_i hvalue
    cases h
    exact fun hmem => hvalue (.inr hmem)

/-- The symbols of a rule text are those of supported comparators. -/
theorem Comparator.isSupported_ofSymbol {symbol : String} (h : symbol ∈ symbols) :
    (ofSymbol symbol).isSupported = true := by
  simp only [symbols, List.mem_cons, List.not_mem_nil, or_false] at h
  rcases h with rfl | rfl | rfl | rfl | rfl <;> rfl

/-- A comparator has the text that it is read from, but for the second symbol of equality. -/
theorem Comparator.symbol_ofSymbol (symbol : String) :
    (ofSymbol symbol).symbol = if symbol = "==" then "=" else symbol := by
  unfold ofSymbol
  split
  case h_7 hne => exact (if_neg hne).symm
  all_goals simp [Comparator.symbol]

/-- The symbol of a supported comparator is one of a rule text. -/
theorem Comparator.symbol_mem_symbols {c : Comparator} (h : c.isSupported = true) :
    c.symbol ∈ symbols := by
  cases c with
  | unsupported symbol => cases h
  | _ => decide

/-- The condition of a clause. -/
theorem Condition.written_of_ofClause? {cs : List Char} {c : Condition}
    (h : ofClause? cs = some c) : c.Written := by
  unfold ofClause? at h
  dsimp only at h
  split at h
  · cases h
  · rename_i hfield
    -- The first symbol that fits is taken, with the field in front and the value behind it.
    obtain ⟨symbol, hsymbol, hfound⟩ := List.exists_of_findSome?_eq_some h
    simp only [Option.bind_eq_bind, Option.bind_eq_some_iff, Option.pure_def,
      Option.some.injEq] at hfound
    obtain ⟨rest, -, value, hvalue, rfl⟩ := hfound
    refine ⟨?_, ?_, Comparator.isSupported_ofSymbol hsymbol,
      Literal.written_ofText (not_mem_of_value? hvalue)⟩
    · intro hempty
      rw [← String.toList_inj, String.toList_ofList] at hempty
      exact hfield (by rw [hempty]; rfl)
    · intro x hx
      rw [String.toList_ofList] at hx
      exact List.all_eq_true.1 List.all_takeWhile x hx

/-! ## Tokens -/

/-- The keywords of a rule text are `AND` and `OR`. -/
theorem Lexeme.written_of_atStart? {before : Option Char} {cs text rest : List Char}
    {k : Connective} (h : atStart? before cs = some (.keyword k, text, rest)) : k.Written := by
  unfold atStart? at h
  split at h
  · cases h
    exact .inl rfl
  · split at h
    · cases h
      exact .inr rfl
    · split at h
      · cases h
      · cases h
      · obtain ⟨_, -, heq⟩ := Option.map_eq_some_iff.1 h
        cases heq

/-- The keywords that are found in a rule text are `AND` and `OR`. -/
theorem Lexeme.written_of_find? {before : Option Char} {cs : List Char} {f : Found}
    {k : Connective} (h : find? before cs = some f) (hk : f.lexeme = .keyword k) : k.Written := by
  induction cs generalizing before f with
  | nil => cases h
  | cons c cs ih =>
    unfold find? at h
    split at h
    · rename_i hs
      cases h
      subst hk
      exact written_of_atStart? hs
    · obtain ⟨g, hg, rfl⟩ := Option.map_eq_some_iff.1 h
      exact ih hg hk

namespace Token

/-- What a lexeme that is found in a rule text says. -/
theorem written_of_kindOf {lexeme : Lexeme} {text : List Char} {position : Nat} {kind : Kind}
    (h : kindOf lexeme text position = .ok kind)
    (hlexeme : ∀ k, lexeme = .keyword k → k.Written) : kind.Written := by
  cases lexeme with
  | keyword k =>
    cases h
    exact hlexeme k rfl
  | openParen =>
    cases h
    trivial
  | closeParen =>
    cases h
    trivial
  | clause =>
    obtain ⟨c, hc, rfl⟩ := map_eq_ok.1 h
    unfold Condition.ofClause at hc
    split at hc
    · rename_i hclause
      cases hc
      exact Condition.written_of_ofClause? hclause
    · cases hc

/-- The tokens of a part of a rule text. -/
theorem written_of_scanFrom {before : Option Char} {position : Nat} {cs : List Char}
    {tokens : List Token} (h : scanFrom before position cs = .ok tokens) :
    ∀ t ∈ tokens, t.kind.Written := by
  fun_induction scanFrom before position cs generalizing tokens with
  | case1 => cases h
  | case2 =>
    cases h
    simp
  | case3 => cases h
  | case4 => cases h
  | case5 => cases h
  | case6 before position cs f hfind _ start kind hkind tokens' hrest =>
    rename_i ih
    cases h
    intro t ht
    rcases List.mem_cons.1 ht with rfl | ht
    · exact written_of_kindOf hkind fun k hk => Lexeme.written_of_find? hfind hk
    · exact ih hrest t ht

/-- The tokens of a rule text. -/
theorem written_of_scan {source : String} {tokens : List Token} (h : scan source = .ok tokens) :
    ∀ t ∈ tokens, t.kind.Written := written_of_scanFrom h

end Token

/-- The conditions and the connectives in a row of tokens that a rule text can have. -/
theorem Token.Kind.written_of_mem {ks : List Kind} (h : ∀ k ∈ ks, k.Written) :
    (∀ c ∈ conditions ks, c.Written) ∧ ∀ k ∈ connectives ks, k.Written := by
  constructor
  · intro c hc
    obtain ⟨kind, hkind, heq⟩ := List.mem_filterMap.1 hc
    have hwritten := h kind hkind
    cases kind with
    | condition c' =>
      cases heq
      exact hwritten
    | _ => cases heq
  · intro k hk
    obtain ⟨kind, hkind, heq⟩ := List.mem_filterMap.1 hk
    have hwritten := h kind hkind
    cases kind with
    | connective k' =>
      cases heq
      exact hwritten
    | _ => cases heq

/-! ## Trees -/

/-- The tree of a rule text. -/
theorem Tree.written_of_compile {source : String} {t : Tree} (h : compile source = .ok t) :
    t.Written := by
  obtain ⟨tokens, items, scanned, -, -⟩ := exists_of_compile_eq_ok h
  obtain ⟨hconditions, hconnectives⟩ :=
    Token.Kind.written_of_mem (List.forall_mem_map.2 (Token.written_of_scan scanned))
  refine ⟨?_, fun k hk => hconnectives k ?_⟩
  · rw [leaves_of_compile scanned h]
    exact hconditions
  · exact (perm_connectives_of_compile scanned h).mem_iff.1 hk

/-- A join by `AND` adds nothing that a rule text cannot have. -/
theorem Tree.Written.node {left right : Tree} (hleft : left.Written) (hright : right.Written) :
    (Tree.node .and left right).Written :=
  ⟨forall_mem_leaves_node.2 ⟨hleft.leaves, hright.leaves⟩,
    forall_mem_connectives_node.2 ⟨⟨hleft.connectives, hright.connectives⟩, .inl rfl⟩⟩

/-- The connective and the sides of a join that rule texts can have. -/
theorem Tree.Written.of_node {k : Connective} {left right : Tree}
    (h : (Tree.node k left right).Written) : k.Written ∧ left.Written ∧ right.Written := by
  obtain ⟨hlleaves, hrleaves⟩ := forall_mem_leaves_node.1 h.leaves
  obtain ⟨⟨hlconnectives, hrconnectives⟩, hk⟩ := forall_mem_connectives_node.1 h.connectives
  exact ⟨hk, ⟨hlleaves, hlconnectives⟩, ⟨hrleaves, hrconnectives⟩⟩

/-- The tree of several rule texts. -/
theorem Tree.written_of_combine {sources : List String} {t : Tree}
    (h : combine sources = .ok (some t)) : t.Written := by
  obtain ⟨g, hwritten, rfl⟩ := Tree.combine_induction (P := fun g => g.tree.Written)
    Tree.written_of_compile (fun hleft hright h => by
      rw [Tree.Graded.tree_of_join h]
      exact hleft.node hright) h
  exact hwritten

end Rulebook
