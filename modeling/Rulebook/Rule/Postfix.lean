import Rulebook.Rule.Token

/-!
# Postfix order

The conditions and connectives of a rule with every connective behind what it joins, so that
parentheses are not needed. A stack holds the connectives that wait for their right side, and the
parentheses that are open.
-/

namespace Rulebook

/-- An item of a rule in postfix order; a connective keeps its position in the text. -/
inductive Postfix where
  | operand (condition : Condition)
  | connective (connective : Connective) (position : Nat)
  deriving DecidableEq

namespace Postfix

/-- What waits on the stack. -/
inductive Pending where
  | connective (connective : Connective) (position : Nat)
  | openParen (position : Nat)
  deriving DecidableEq

/-- Takes off the stack the connectives on top that bind at least as tightly as `precedence`. -/
def popTighter (precedence : Nat) : List Pending → List Postfix × List Pending
  | .connective top position :: stack =>
    if top.precedence < precedence then ([], .connective top position :: stack)
    else
      let (popped, rest) := popTighter precedence stack
      (.connective top position :: popped, rest)
  | stack => ([], stack)

/-- Takes off the stack what is on top of the innermost open parenthesis, and the parenthesis. -/
def popGroup? : List Pending → Option (List Postfix × List Pending)
  | [] => none
  | .openParen _ :: stack => some ([], stack)
  | .connective top position :: stack =>
    (popGroup? stack).map fun (popped, rest) => (.connective top position :: popped, rest)

/-- Empties the stack at the end of the text. -/
def drain : List Pending → Except SyntaxError (List Postfix)
  | [] => .ok []
  | .openParen position :: _ => .error (.unbalancedParenthesis position)
  | .connective top position :: stack => (drain stack).map (.connective top position :: ·)

/-- The postfix order of tokens that follow what left `stack`. -/
def arrange (stack : List Pending) : List Token → Except SyntaxError (List Postfix)
  | [] => drain stack
  | ⟨.condition c, _⟩ :: ts => (arrange stack ts).map (.operand c :: ·)
  | ⟨.openParen, position⟩ :: ts => arrange (.openParen position :: stack) ts
  | ⟨.connective k, position⟩ :: ts =>
    let (popped, rest) := popTighter k.precedence stack
    (arrange (.connective k position :: rest) ts).map (popped ++ ·)
  | ⟨.closeParen, position⟩ :: ts =>
    match popGroup? stack with
    | none => .error (.unbalancedParenthesis position)
    | some (popped, rest) => (arrange rest ts).map (popped ++ ·)

/-- The postfix order of the tokens of a rule. -/
def ofTokens (ts : List Token) : Except SyntaxError (List Postfix) := arrange [] ts

end Postfix

end Rulebook
