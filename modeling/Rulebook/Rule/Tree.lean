import Rulebook.Rule.Condition

/-!
# Rule trees

A rule is a tree of conditions joined two at a time. Its text puts every join into parentheses.
-/

namespace Rulebook

/-- A rule: one condition, or two rules joined by a connective. -/
inductive Tree where
  | leaf (condition : Condition)
  | node (connective : Connective) (left right : Tree)
  deriving DecidableEq

namespace Tree

/-- The number of levels; a leaf has one. -/
def depth : Tree → Nat
  | .leaf _ => 1
  | .node _ left right => 1 + max left.depth right.depth

/-- The conditions from left to right. -/
def leaves : Tree → List Condition
  | .leaf c => [c]
  | .node _ left right => left.leaves ++ right.leaves

/-- The number of conditions. -/
def leafCount : Tree → Nat
  | .leaf _ => 1
  | .node _ left right => left.leafCount + right.leafCount

/-- Inserts a text into an ascending list, unless it is there. -/
def insertField (field : String) : List String → List String
  | [] => [field]
  | f :: rest =>
    if field < f then field :: f :: rest
    else if field = f then f :: rest
    else f :: insertField field rest

/-- The fields that the conditions name, each once, in ascending order. -/
def fields (t : Tree) : List String := t.leaves.foldl (fun fs c => insertField c.field fs) []

/-- The text of a rule, every join in parentheses. -/
def chars : Tree → List Char
  | .leaf c => c.chars
  | .node connective left right =>
    '(' :: (left.chars ++ ' ' :: (connective.keyword.toList ++ ' ' :: (right.chars ++ [')'])))

/-- The text of a rule, every join in parentheses. -/
def text (t : Tree) : String := String.ofList t.chars

/-- Equality up to the signs of zero literals. -/
def agrees : Tree → Tree → Bool
  | .leaf c, .leaf d => c.agrees d
  | .node k l r, .node k' l' r' => k == k' && l.agrees l' && r.agrees r'
  | _, _ => false

end Tree

end Rulebook
