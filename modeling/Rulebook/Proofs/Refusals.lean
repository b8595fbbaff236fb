import Rulebook.Proofs.Layout
import Rulebook.Proofs.Parentheses

/-!
# What comes of the tokens of a text

A text is compiled to a tree with its conditions in their order and its connectives in some order,
of which there is one less. Where a connective is missing, the number of trees that the error gives
is what the conditions are more than the connectives; where an operand is missing, the error names a
connective that stands in the text at the position given; and a rule is empty only if its tokens are
balanced parentheses and nothing else (`compile_accounts`).

A compiling ends in one of few ways (`Ends`), and each answer is read off the way that it came.
-/

namespace Rulebook

open Token.Kind (conditions connectives)

namespace Token

/-- A connective stands in the text that it is a token of, at its position. -/
theorem Scans.exists_append_of_mem {before : Option Char} {start : Nat} {cs : List Char}
    {tokens : List Token} (h : Scans before start cs tokens) {k : Connective} {position : Nat}
    (hmem : ⟨.connective k, position⟩ ∈ tokens) :
    ∃ front behind, cs = front ++ (k.keyword.toList ++ behind) ∧
      position = start + front.length := by
  induction h with
  | blank => cases hmem
  | @lexeme before start gap text rest lexeme kind tokens blank found kindOf_eq follows ih =>
    rcases List.mem_cons.1 hmem with heq | hmem
    · cases heq
      -- The text of the token is of its kind from end to end, so it is the keyword.
      cases denotes_of_atStart? found kindOf_eq with
      | connective => exact ⟨gap, rest, rfl, rfl⟩
    · obtain ⟨front, behind, rfl, rfl⟩ := ih hmem
      refine ⟨gap ++ (text ++ front), behind, by simp only [List.append_assoc], ?_⟩
      simp only [List.length_append]
      omega

/-- What is an item of tokens with this connective is one of the tokens. -/
theorem mem_of_connective_mem_items {ts : List Token} {k : Connective} {position : Nat}
    (h : .connective k position ∈ items ts) : ⟨.connective k, position⟩ ∈ ts := by
  obtain ⟨⟨kind, p⟩, hmem, hitem⟩ := List.mem_filterMap.1 h
  cases kind with
  | connective k' =>
    cases hitem
    exact hmem
  | condition c => cases hitem
  | openParen => cases hitem
  | closeParen => cases hitem

end Token

open Token (Balanced scan)

/-- How the compiling of a text ends: there are no tokens, their parentheses are not balanced, or
their items are put into an order and built. -/
inductive Ends (source : String) : Except SyntaxError Tree → Prop
  | noTokens {e : SyntaxError} (scanned : scan source = .error e) : Ends source (.error e)
  | unbalanced {tokens : List Token} {p : Nat} (scanned : scan source = .ok tokens)
      (unbalanced : ¬Balanced tokens) : Ends source (.error (.unbalancedParenthesis p))
  | built {tokens : List Token} {items : List Postfix} {outcome : Except SyntaxError Tree}
      (scanned : scan source = .ok tokens) (balanced : Balanced tokens)
      (conditions_eq : Postfix.conditions items = conditions (tokens.map (·.kind)))
      (perm : items.Perm (Token.items tokens)) (comesOf : Tree.ComesOf items outcome) :
      Ends source outcome

/-- Every compiling ends in one of these ways. -/
theorem ends_compile (source : String) : Ends source (compile source) := by
  cases hscan : scan source with
  | error e =>
    have hcompile : compile source = .error e := by
      rw [compile, hscan]
      rfl
    rw [hcompile]
    exact .noTokens hscan
  | ok tokens =>
    rw [compile_of_scan hscan]
    have hfinds := Postfix.finds_ofTokens tokens
    cases harranged : Postfix.ofTokens tokens with
    | error e =>
      rw [harranged] at hfinds
      cases hfinds with
      | wrong _ unbalanced => exact .unbalanced hscan unbalanced
    | ok items =>
      rw [harranged] at hfinds
      cases hfinds with
      | balanced balanced _ =>
        obtain ⟨hconditions, hperm⟩ := Postfix.perm_of_ofTokens harranged
        exact .built hscan balanced hconditions hperm (Tree.comesOf_ofPostfix items)

/-- Items without a condition and without a connective are none. -/
theorem Postfix.eq_nil_of_conditions_eq_nil {items : List Postfix}
    (hconditions : Postfix.conditions items = []) (hconnectives : Postfix.connectives items = []) :
    items = [] := by
  cases items with
  | nil => rfl
  | cons item items =>
    cases item with
    | operand c => cases hconditions
    | connective k position => cases hconnectives

/-- Balanced parentheses and nothing else are an empty rule. -/
theorem compile_eq_emptyExpression {source : String} {tokens : List Token}
    (scanned : scan source = .ok tokens) (balanced : Balanced tokens)
    (hconditions : conditions (tokens.map (·.kind)) = [])
    (hconnectives : connectives (tokens.map (·.kind)) = []) :
    compile source = .error .emptyExpression := by
  rw [compile_of_scan scanned]
  cases harranged : Postfix.ofTokens tokens with
  | error e => exact absurd balanced (Postfix.exists_ofTokens_eq_error.1 ⟨e, harranged⟩)
  | ok items =>
    obtain ⟨hsame, hperm⟩ := Postfix.perm_of_ofTokens harranged
    have hmoved := Postfix.perm_connectives_of_perm hperm
    rw [hconnectives, List.perm_nil] at hmoved
    rw [hconditions] at hsame
    rw [Postfix.eq_nil_of_conditions_eq_nil hsame hmoved]
    rfl

namespace Ends

variable {source : String}

/-- A tree has the conditions of the text in their order and its connectives in some order. -/
theorem tree_accounts {tree : Tree} (h : Ends source (.ok tree)) :
    ∃ tokens, scan source = .ok tokens ∧
      (conditions (tokens.map (·.kind))).length =
        (connectives (tokens.map (·.kind))).length + 1 ∧
      tree.leaves = conditions (tokens.map (·.kind)) ∧
      tree.connectives.Perm (connectives (tokens.map (·.kind))) := by
  cases h with
  | @built tokens items _ scanned _ conditions_eq perm comesOf =>
    cases comesOf with
    | built leaves connectives_eq =>
      have hperm := Postfix.perm_connectives_of_perm perm
      rw [← connectives_eq] at hperm
      refine ⟨tokens, scanned, ?_, leaves.trans conditions_eq, hperm⟩
      rw [← conditions_eq, ← leaves, Tree.length_leaves, hperm.length_eq]

/-- Where a connective is missing, the count is what the conditions are more than the connectives,
at least two. -/
theorem count_accounts {count : Nat} (h : Ends source (.error (.missingConnective count))) :
    ∃ tokens, scan source = .ok tokens ∧
      count + (connectives (tokens.map (·.kind))).length =
        (conditions (tokens.map (·.kind))).length ∧ 2 ≤ count := by
  cases h with
  | noTokens scanned => cases Token.quotes_of_scanFrom scanned
  | @built tokens items _ scanned _ conditions_eq perm comesOf =>
    cases comesOf with
    | severalTrees two_le count_add =>
      refine ⟨tokens, scanned, ?_, two_le⟩
      rw [← conditions_eq, ← (Postfix.perm_connectives_of_perm perm).length_eq, count_add]

/-- An empty rule is balanced parentheses and nothing else. -/
theorem empty_accounts (h : Ends source (.error .emptyExpression)) :
    ∃ tokens, scan source = .ok tokens ∧ Balanced tokens ∧
      conditions (tokens.map (·.kind)) = [] ∧ connectives (tokens.map (·.kind)) = [] := by
  cases h with
  | noTokens scanned => cases Token.quotes_of_scanFrom scanned
  | @built tokens items _ scanned balanced conditions_eq perm comesOf =>
    cases comesOf with
    | empty hconditions hconnectives =>
      have hperm := Postfix.perm_connectives_of_perm perm
      rw [hconnectives, List.nil_perm] at hperm
      exact ⟨tokens, scanned, balanced, conditions_eq.symm.trans hconditions, hperm⟩

/-- The connective that lacks an operand stands in the text at the place that the error gives. -/
theorem operand_accounts {connective : String} {position : Nat}
    (h : Ends source (.error (.missingOperand connective position))) :
    ∃ tokens k, scan source = .ok tokens ∧ ⟨.connective k, position⟩ ∈ tokens ∧
      connective = k.keyword ∧ ∃ front behind,
        source.toList = front ++ (connective.toList ++ behind) ∧ position = front.length := by
  cases h with
  | noTokens scanned => cases Token.quotes_of_scanFrom scanned
  | @built tokens items _ scanned _ _ perm comesOf =>
    cases comesOf with
    | @missingOperand k _ mem =>
      have hmem := Token.mem_of_connective_mem_items (perm.mem_iff.1 mem)
      obtain ⟨front, behind, heq, hposition⟩ :=
        (Token.scans_iff.2 scanned).exists_append_of_mem hmem
      exact ⟨tokens, k, scanned, hmem, rfl, front, behind, heq, hposition.trans (Nat.zero_add _)⟩

end Ends

/-- A compiled tree has the conditions of the text in their order and its connectives in some order,
and there is one condition more. If a connective is missing, the error tells how many conditions
more there are than connectives, and these are two at least. A rule is empty if and only if its text
has tokens, all of them parentheses, which are balanced. If an operand is missing, the error names a
connective of the text and the place where it stands. -/
theorem compile_accounts (source : String) :
    (∀ tree, compile source = .ok tree →
      ∃ tokens, scan source = .ok tokens ∧
        (conditions (tokens.map (·.kind))).length =
          (connectives (tokens.map (·.kind))).length + 1 ∧
        tree.leaves = conditions (tokens.map (·.kind)) ∧
        tree.connectives.Perm (connectives (tokens.map (·.kind)))) ∧
    (∀ count, compile source = .error (.missingConnective count) →
      ∃ tokens, scan source = .ok tokens ∧
        count + (connectives (tokens.map (·.kind))).length =
          (conditions (tokens.map (·.kind))).length ∧ 2 ≤ count) ∧
    (compile source = .error .emptyExpression ↔
      ∃ tokens, scan source = .ok tokens ∧ Balanced tokens ∧
        conditions (tokens.map (·.kind)) = [] ∧ connectives (tokens.map (·.kind)) = []) ∧
    ∀ connective position, compile source = .error (.missingOperand connective position) →
      ∃ tokens k, scan source = .ok tokens ∧ ⟨.connective k, position⟩ ∈ tokens ∧
        connective = k.keyword ∧ ∃ front behind,
          source.toList = front ++ (connective.toList ++ behind) ∧ position = front.length := by
  have hends := ends_compile source
  refine ⟨fun tree hcompile => ?_, fun count hcompile => ?_, ⟨fun hcompile => ?_, ?_⟩,
    fun connective position hcompile => ?_⟩
  · rw [hcompile] at hends
    exact hends.tree_accounts
  · rw [hcompile] at hends
    exact hends.count_accounts
  · rw [hcompile] at hends
    exact hends.empty_accounts
  · rintro ⟨tokens, scanned, balanced, hconditions, hconnectives⟩
    exact compile_eq_emptyExpression scanned balanced hconditions hconnectives
  · rw [hcompile] at hends
    exact hends.operand_accounts

/-- A connective behind its two conditions joins them in the order of the text, an `OR` whose right
side is an empty group lacks an operand, three conditions with one connective leave two trees, and
empty groups are an empty rule. -/
theorem compile_accounts_empty_group :
    (∃ tree tokens, compile "a='x' (b='y' OR)" = .ok tree ∧
        scan "a='x' (b='y' OR)" = .ok tokens ∧
        tree.leaves = conditions (tokens.map (·.kind))) ∧
      (compile "a='x' OR ()" = .error (.missingOperand "OR" 6) ∧ ∃ front behind,
        "a='x' OR ()".toList = front ++ ("OR".toList ++ behind) ∧ 6 = front.length) ∧
      (compile "(a='x') b='y' OR c='z'" = .error (.missingConnective 2) ∧
        ∃ tokens, scan "(a='x') b='y' OR c='z'" = .ok tokens ∧
          2 + (connectives (tokens.map (·.kind))).length =
            (conditions (tokens.map (·.kind))).length) ∧
      (compile " ( ( ) )( )" = .error .emptyExpression ∧
        ∃ tokens, scan " ( ( ) )( )" = .ok tokens ∧ Balanced tokens) := by
  have hbuilt : compile "a='x' (b='y' OR)" =
      .ok (.node .or (.leaf ⟨"a", .eq, .text "x"⟩) (.leaf ⟨"b", .eq, .text "y"⟩)) := by
    decide +kernel
  have hmissing : compile "a='x' OR ()" = .error (.missingOperand "OR" 6) := by decide +kernel
  have hseveral : compile "(a='x') b='y' OR c='z'" = .error (.missingConnective 2) := by
    decide +kernel
  have hempty : compile " ( ( ) )( )" = .error .emptyExpression := by decide +kernel
  refine ⟨?_, ⟨hmissing, ?_⟩, ⟨hseveral, ?_⟩, ⟨hempty, ?_⟩⟩
  · obtain ⟨tokens, scanned, -, hleaves, -⟩ := (compile_accounts _).1 _ hbuilt
    exact ⟨_, tokens, hbuilt, scanned, hleaves⟩
  · obtain ⟨tokens, k, -, -, -, hstands⟩ := (compile_accounts _).2.2.2 _ _ hmissing
    exact hstands
  · obtain ⟨tokens, scanned, hcount, -⟩ := (compile_accounts _).2.1 _ hseveral
    exact ⟨tokens, scanned, hcount⟩
  · obtain ⟨tokens, scanned, balanced, -⟩ := (compile_accounts _).2.2.1.1 hempty
    exact ⟨tokens, scanned, balanced⟩

end Rulebook
