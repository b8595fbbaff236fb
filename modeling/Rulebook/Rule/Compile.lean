import Rulebook.Rule.Postfix
import Rulebook.Rule.Tree

/-!
# Rule texts to trees

`compile` reads a rule text into its tree, and `combine` joins the trees of several texts by AND.
No tree has more than `maxDepth` levels: a join that would make one fails before it is made, for
which every tree in the making is kept with its depth.
-/

namespace Rulebook

namespace Tree

/-- The greatest number of levels of a tree that is read from a text. -/
def maxDepth : Nat := 100

/-- A tree with the number of its levels. -/
structure Graded where
  tree : Tree
  depth : Nat

/-- Joins two trees, unless the result has more than `maxDepth` levels. -/
def Graded.join (connective : Connective) (left right : Graded) : Except SyntaxError Graded :=
  let depth := max left.depth right.depth + 1
  if maxDepth < depth then .error (.tooDeep maxDepth)
  else .ok ⟨.node connective left.tree right.tree, depth⟩

/-- Applies one item of a postfix order to the stack of trees. -/
def pushItem (stack : List Graded) : Postfix → Except SyntaxError (List Graded)
  | .operand c => .ok (⟨.leaf c, 1⟩ :: stack)
  | .connective k position =>
    match stack with
    -- The right side was pushed last.
    | right :: left :: rest => (left.join k right).map (· :: rest)
    | _ => .error (.missingOperand k.keyword position)

/-- The one tree of a stack. -/
def only : List Graded → Except SyntaxError Tree
  | [] => .error .emptyExpression
  | [g] => .ok g.tree
  | stack => .error (.missingConnective stack.length)

/-- The tree of a rule in postfix order. -/
def ofPostfix (items : List Postfix) : Except SyntaxError Tree :=
  items.foldlM pushItem [] >>= only

end Tree

/-- The tree of a rule text. -/
def compile (source : String) : Except SyntaxError Tree :=
  Token.scan source >>= Postfix.ofTokens >>= Tree.ofPostfix

namespace Tree

/-- Joins the tree of the text with this index to those of the texts in front of it. -/
def combineNext (joined : Option Graded) (source : String) (index : Nat) :
    Except RuleError (Option Graded) :=
  match compile source with
  | .error e => .error (.combineFailed index e)
  | .ok tree =>
    match joined with
    | none => .ok (some ⟨tree, tree.depth⟩)
    | some left =>
      match left.join .and ⟨tree, tree.depth⟩ with
      | .error e => .error (.combineFailed index e)
      | .ok g => .ok (some g)

/-- Joins the trees of texts of which the first has the given index. -/
def combineFrom (joined : Option Graded) (index : Nat) :
    List String → Except RuleError (Option Graded)
  | [] => .ok joined
  | source :: rest => do combineFrom (← combineNext joined source index) (index + 1) rest

end Tree

/-- The trees of several texts joined by AND from left to right; none for no text. -/
def combine (sources : List String) : Except RuleError (Option Tree) :=
  (Tree.combineFrom none 0 sources).map (·.map (·.tree))

end Rulebook
