import Rulebook.Proofs.Outcome
import Rulebook.Rule.Compile

/-!
# Positions of tokens

A position is kept for the messages of errors. Whether a row of tokens is a rule, and which tree it
is compiled to, depends on the kinds of the tokens alone: every step that leads to a tree does the
same with all positions set to zero, and two rows of the same kinds become one and the same row
then (`toOption_ofTokens_bind_of_kinds_eq`).
-/

namespace Rulebook

/-- A token without its position. -/
def Token.unplaced (t : Token) : Token := ⟨t.kind, 0⟩

namespace Postfix

/-- An item without its position. -/
def unplaced : Postfix → Postfix
  | .operand c => .operand c
  | .connective k _ => .connective k 0

/-- What waits on the stack, without its position. -/
def Pending.unplaced : Pending → Pending
  | .connective k _ => .connective k 0
  | .openParen _ => .openParen 0

/-- The same connectives come off the stack. -/
theorem popTighter_unplaced (precedence : Nat) (stack : List Pending) :
    popTighter precedence (stack.map Pending.unplaced) =
      ((popTighter precedence stack).1.map unplaced,
        (popTighter precedence stack).2.map Pending.unplaced) := by
  induction stack with
  | nil => rfl
  | cons top stack ih =>
    cases top with
    | openParen position => rfl
    | connective k position =>
      rw [List.map_cons, Pending.unplaced, popTighter, popTighter, ih]
      split <;> rfl

/-- The same group comes off the stack. -/
theorem popGroup?_unplaced (stack : List Pending) :
    popGroup? (stack.map Pending.unplaced) =
      (popGroup? stack).map (Prod.map (·.map unplaced) (·.map Pending.unplaced)) := by
  induction stack with
  | nil => rfl
  | cons top stack ih =>
    cases top with
    | openParen position => rfl
    | connective k position =>
      rw [List.map_cons, Pending.unplaced, popGroup?, popGroup?, ih]
      cases popGroup? stack <;> rfl

/-- The same connectives are left on the stack at the end. -/
theorem toOption_drain_unplaced (stack : List Pending) :
    (drain (stack.map Pending.unplaced)).toOption =
      (drain stack).toOption.map (·.map unplaced) := by
  induction stack with
  | nil => rfl
  | cons top stack ih =>
    cases top with
    | openParen position => rfl
    | connective k position =>
      rw [List.map_cons, Pending.unplaced, drain, drain, toOption_map, toOption_map, ih]
      cases (drain stack).toOption <;> rfl

/-- The same items come out in the same order. -/
theorem toOption_arrange_unplaced (stack : List Pending) (ts : List Token) :
    (arrange (stack.map Pending.unplaced) (ts.map Token.unplaced)).toOption =
      (arrange stack ts).toOption.map (·.map unplaced) := by
  induction ts generalizing stack with
  | nil => exact toOption_drain_unplaced stack
  | cons t ts ih =>
    obtain ⟨kind, position⟩ := t
    rw [List.map_cons, Token.unplaced]
    cases kind with
    | condition c =>
      rw [arrange, arrange, toOption_map, toOption_map, ih]
      cases (arrange stack ts).toOption <;> rfl
    | openParen => exact ih (.openParen position :: stack)
    | connective k =>
      have hrest := ih (.connective k position :: (popTighter k.precedence stack).2)
      rw [List.map_cons, Pending.unplaced] at hrest
      rw [arrange, arrange, popTighter_unplaced, toOption_map, toOption_map, hrest]
      cases (arrange _ ts).toOption with
      | none => rfl
      | some items => simp
    | closeParen =>
      rw [arrange, arrange, popGroup?_unplaced]
      cases popGroup? stack with
      | none => rfl
      | some group =>
        have hrest := ih group.2
        dsimp only [Option.map_some, Prod.map]
        rw [toOption_map, toOption_map, hrest]
        cases (arrange _ ts).toOption with
        | none => rfl
        | some items => simp

/-- The same trees are built. -/
theorem toOption_foldlM_pushItem_unplaced (items : List Postfix) (stack : List Tree.Graded) :
    ((items.map unplaced).foldlM Tree.pushItem stack).toOption =
      (items.foldlM Tree.pushItem stack).toOption := by
  induction items generalizing stack with
  | nil => rfl
  | cons item items ih =>
    have hstep : (Tree.pushItem stack item.unplaced).toOption =
        (Tree.pushItem stack item).toOption := by
      cases item with
      | operand c => rfl
      | connective k position =>
        match stack with
        | [] => rfl
        | [_] => rfl
        | _ :: _ :: _ => rfl
    rw [List.map_cons, List.foldlM_cons, List.foldlM_cons, toOption_bind, toOption_bind, hstep]
    exact Option.bind_congr fun stack' _ => ih stack'

/-- A row of tokens is compiled as it is without positions. -/
theorem toOption_ofTokens_bind_unplaced (ts : List Token) :
    (ofTokens (ts.map Token.unplaced) >>= Tree.ofPostfix).toOption =
      (ofTokens ts >>= Tree.ofPostfix).toOption := by
  have harrange := toOption_arrange_unplaced [] ts
  rw [List.map_nil] at harrange
  rw [toOption_bind, toOption_bind, ofTokens, ofTokens, harrange]
  cases (arrange [] ts).toOption with
  | none => rfl
  | some items =>
    change (Tree.ofPostfix (items.map unplaced)).toOption = (Tree.ofPostfix items).toOption
    rw [Tree.ofPostfix, Tree.ofPostfix, toOption_bind, toOption_bind,
      toOption_foldlM_pushItem_unplaced]

/-- Rows of tokens of the same kinds are compiled alike. -/
theorem toOption_ofTokens_bind_of_kinds_eq {ts us : List Token}
    (same : ts.map (·.kind) = us.map (·.kind)) :
    (ofTokens ts >>= Tree.ofPostfix).toOption = (ofTokens us >>= Tree.ofPostfix).toOption := by
  have hunplaced : ts.map Token.unplaced = us.map Token.unplaced := by
    have hkinds := congrArg (List.map fun kind => (⟨kind, 0⟩ : Token)) same
    rwa [List.map_map, List.map_map] at hkinds
  rw [← toOption_ofTokens_bind_unplaced ts, hunplaced, toOption_ofTokens_bind_unplaced]

end Postfix

/-- A text whose tokens have the kinds of a row that is compiled to a tree is compiled to it. -/
theorem compile_eq_ok_of_kinds_eq {source : String} {tokens ts : List Token} {t : Tree}
    (scanned : Token.scan source = .ok tokens) (same : tokens.map (·.kind) = ts.map (·.kind))
    (compiled : Postfix.ofTokens ts >>= Tree.ofPostfix = .ok t) : compile source = .ok t := by
  have hsame := Postfix.toOption_ofTokens_bind_of_kinds_eq same
  rw [compiled, toOption_eq_some.2 rfl, toOption_eq_some] at hsame
  rw [compile, scanned]
  exact hsame

end Rulebook
