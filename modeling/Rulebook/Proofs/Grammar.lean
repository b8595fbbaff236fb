import Rulebook.Rule.Token
import Rulebook.Rule.Tree

/-!
# The grammar of rules

An expression is terms joined by `OR`, a term is factors joined by `AND`, and a factor is a
condition or an expression in parentheses:

    Expression ::= Term (OR Term)*
    Term       ::= Factor (AND Factor)*
    Factor     ::= condition | ( Expression )

A chain grows at its right end, so its tree leans to the left. A derivation derives the kinds of its
tokens (`Expression.kinds`) and stands for a tree (`Expression.tree`), in which the parentheses are
gone.

`exists_kinds_eq_iff` says which rows of kinds are derived without speaking of derivations: reading
from left to right, an operand and what follows an operand take turns, and the parentheses close
(`Alternates`).
-/

namespace Rulebook.Grammar

mutual

/-- Terms joined by `OR`. -/
inductive Expression where
  | term (t : Term)
  | or (left : Expression) (right : Term)

/-- Factors joined by `AND`. -/
inductive Term where
  | factor (f : Factor)
  | and (left : Term) (right : Factor)

/-- A condition, or an expression in parentheses. -/
inductive Factor where
  | condition (c : Condition)
  | group (e : Expression)

end

mutual

/-- The kinds of the tokens of an expression. -/
def Expression.kinds : Expression → List Token.Kind
  | .term t => t.kinds
  | .or left right => left.kinds ++ .connective .or :: right.kinds

/-- The kinds of the tokens of a term. -/
def Term.kinds : Term → List Token.Kind
  | .factor f => f.kinds
  | .and left right => left.kinds ++ .connective .and :: right.kinds

/-- The kinds of the tokens of a factor. -/
def Factor.kinds : Factor → List Token.Kind
  | .condition c => [.condition c]
  | .group e => .openParen :: (e.kinds ++ [.closeParen])

end

mutual

/-- The tree that an expression stands for. -/
def Expression.tree : Expression → Tree
  | .term t => t.tree
  | .or left right => .node .or left.tree right.tree

/-- The tree that a term stands for. -/
def Term.tree : Term → Tree
  | .factor f => f.tree
  | .and left right => .node .and left.tree right.tree

/-- The tree that a factor stands for. -/
def Factor.tree : Factor → Tree
  | .condition c => .leaf c
  | .group e => e.tree

end

/-! ## Reading from left to right -/

/-- The rest of a row of kinds, with `nesting` parentheses open: an operand comes first if it is
`due`, otherwise something that follows an operand. -/
inductive Alternates : (due : Bool) → (nesting : Nat) → List Token.Kind → Prop
  | nil : Alternates false 0 []
  | condition {n : Nat} {c : Condition} {ks : List Token.Kind} :
      Alternates false n ks → Alternates true n (.condition c :: ks)
  | openParen {n : Nat} {ks : List Token.Kind} :
      Alternates true (n + 1) ks → Alternates true n (.openParen :: ks)
  | closeParen {n : Nat} {ks : List Token.Kind} :
      Alternates false n ks → Alternates false (n + 1) (.closeParen :: ks)
  | and {n : Nat} {ks : List Token.Kind} :
      Alternates true n ks → Alternates false n (.connective .and :: ks)
  | or {n : Nat} {ks : List Token.Kind} :
      Alternates true n ks → Alternates false n (.connective .or :: ks)

mutual

/-- An expression is read where an operand is due. -/
theorem Alternates.expression {n : Nat} {ks : List Token.Kind} :
    ∀ e : Expression, Alternates false n ks → Alternates true n (e.kinds ++ ks)
  | .term t, h => by
    rw [Expression.kinds]
    exact Alternates.term t h
  | .or left right, h => by
    rw [Expression.kinds, List.append_assoc, List.cons_append]
    exact Alternates.expression left (.or (Alternates.term right h))

/-- A term is read where an operand is due. -/
theorem Alternates.term {n : Nat} {ks : List Token.Kind} :
    ∀ t : Term, Alternates false n ks → Alternates true n (t.kinds ++ ks)
  | .factor f, h => by
    rw [Term.kinds]
    exact Alternates.factor f h
  | .and left right, h => by
    rw [Term.kinds, List.append_assoc, List.cons_append]
    exact Alternates.term left (.and (Alternates.factor right h))

/-- A factor is read where an operand is due. -/
theorem Alternates.factor {n : Nat} {ks : List Token.Kind} :
    ∀ f : Factor, Alternates false n ks → Alternates true n (f.kinds ++ ks)
  | .condition c, h => by
    rw [Factor.kinds]
    exact .condition h
  | .group e, h => by
    rw [Factor.kinds, List.cons_append, List.append_assoc, List.singleton_append]
    exact .openParen (Alternates.expression e (.closeParen h))

end

/-- An expression with a factor joined to its last term. -/
def Expression.and : Expression → Factor → Expression
  | .term t, f => .term (.and t f)
  | .or left right, f => .or left (.and right f)

/-- The joined factor comes last, behind an `AND`. -/
theorem Expression.kinds_and (e : Expression) (f : Factor) :
    (e.and f).kinds = e.kinds ++ .connective .and :: f.kinds := by
  cases e with
  | term t => rw [Expression.and, Expression.kinds, Term.kinds, Expression.kinds]
  | or left right =>
    rw [Expression.and, Expression.kinds, Term.kinds, Expression.kinds, List.append_assoc,
      List.cons_append]

/-- What may be left when an expression ends inside `n` parentheses: nothing, or the end of the
innermost parenthesis with something that follows an operand. -/
def Ends : (n : Nat) → List Token.Kind → Prop
  | 0, rest => rest = []
  | n + 1, rest => ∃ ks, rest = .closeParen :: ks ∧ Alternates false n ks

/-- Where an operand is due a factor is read, and behind an expression the reading goes on to the
end of a longer one. The induction is on a bound for what is left, for a factor in parentheses is an
expression again. -/
theorem exists_kinds_append_of_length_le (bound : Nat) :
    (∀ {n : Nat} {ks : List Token.Kind}, ks.length ≤ bound → Alternates true n ks →
      ∃ (f : Factor) (rest : List Token.Kind), ks = f.kinds ++ rest ∧ Alternates false n rest ∧
        rest.length < ks.length) ∧
    (∀ {n : Nat} {ks : List Token.Kind} (e : Expression), ks.length ≤ bound →
      Alternates false n ks →
      ∃ (e' : Expression) (rest : List Token.Kind), e.kinds ++ ks = e'.kinds ++ rest ∧
        Ends n rest ∧ rest.length ≤ ks.length) := by
  induction bound with
  | zero =>
    constructor
    · intro n ks hlen h
      rw [List.length_eq_zero_iff.1 (Nat.le_zero.1 hlen)] at h
      cases h
    · intro n ks e hlen h
      obtain rfl := List.length_eq_zero_iff.1 (Nat.le_zero.1 hlen)
      cases h
      exact ⟨e, [], rfl, rfl, Nat.le_refl _⟩
  | succ bound ih =>
    obtain ⟨ihFactor, ihRest⟩ := ih
    -- Behind a connective stands a factor, and the longer expression goes on behind that.
    have join {n : Nat} {ks : List Token.Kind} {k : Token.Kind} (e : Expression)
        (extend : Factor → Expression) (hlen : ks.length ≤ bound)
        (hextend : ∀ f, (extend f).kinds = e.kinds ++ k :: f.kinds) (h : Alternates true n ks) :
        ∃ (e' : Expression) (rest : List Token.Kind), e.kinds ++ k :: ks = e'.kinds ++ rest ∧
          Ends n rest ∧ rest.length ≤ ks.length + 1 := by
      obtain ⟨f, rest, rfl, hrest, hlt⟩ := ihFactor hlen h
      obtain ⟨e', rest', heq, hends, hle⟩ := ihRest (extend f) (by omega) hrest
      refine ⟨e', rest', ?_, hends, by omega⟩
      rw [← heq, hextend, List.append_assoc, List.cons_append]
    constructor
    · intro n ks hlen h
      cases h with
      | @condition _ c ks h => exact ⟨.condition c, ks, rfl, h, Nat.lt_succ_self _⟩
      | @openParen _ ks h =>
        -- The first factor inside is the start of the expression that ends at the parenthesis.
        have hlen : ks.length ≤ bound := Nat.le_of_succ_le_succ hlen
        obtain ⟨f, rest, rfl, hrest, hlt⟩ := ihFactor hlen h
        obtain ⟨e, rest', heq, ⟨ks', rfl, hks'⟩, hle⟩ :=
          ihRest (.term (.factor f)) (by omega) hrest
        rw [Expression.kinds, Term.kinds] at heq
        refine ⟨.group e, ks', ?_, hks', ?_⟩
        · rw [heq, Factor.kinds, List.cons_append, List.append_assoc, List.singleton_append]
        · simp only [List.length_cons] at hle ⊢
          omega
    · intro n ks e hlen h
      cases h with
      | nil => exact ⟨e, [], rfl, rfl, Nat.le_refl _⟩
      | @closeParen n ks h => exact ⟨e, .closeParen :: ks, rfl, ⟨ks, rfl, h⟩, Nat.le_refl _⟩
      | and h => exact join e e.and (Nat.le_of_succ_le_succ hlen) (Expression.kinds_and e) h
      | or h =>
        exact join e (fun f => .or e (.factor f)) (Nat.le_of_succ_le_succ hlen)
          (fun f => by rw [Expression.kinds, Term.kinds]) h

/-- The rows of kinds that an expression derives are those that are read from left to right. -/
theorem exists_kinds_eq_iff {ks : List Token.Kind} :
    (∃ e : Expression, e.kinds = ks) ↔ Alternates true 0 ks := by
  constructor
  · rintro ⟨e, rfl⟩
    simpa using Alternates.expression e .nil
  · intro h
    obtain ⟨readFactor, readRest⟩ := exists_kinds_append_of_length_le ks.length
    obtain ⟨f, rest, rfl, hrest, hlt⟩ := readFactor (Nat.le_refl _) h
    obtain ⟨e, rest', heq, hends, -⟩ :=
      readRest (.term (.factor f)) (Nat.le_of_lt hlt) hrest
    obtain rfl : rest' = [] := hends
    rw [Expression.kinds, Term.kinds, List.append_nil] at heq
    exact ⟨e, heq.symm⟩

end Rulebook.Grammar
