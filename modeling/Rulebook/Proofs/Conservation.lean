import Rulebook.Proofs.Depth

/-!
# What compiling keeps

Arranging tokens in postfix order drops the parentheses and moves connectives to the right; building
the tree puts the items together. Neither loses, adds or reorders a condition, and neither loses or
adds a connective: `leaves_of_compile` and `perm_connectives_of_compile` say so of a text that is
compiled, and `closes_of_compile` that its parentheses are balanced.

Both halves go by a statement about one step on a stack and an induction over the steps. Since every
tree has one condition more than it has connectives, they also tell how many trees are left where a
connective is missing (`Tree.ComesOf`).
-/

namespace Rulebook

/-! ## Conditions and connectives -/

namespace Token.Kind

/-- The condition that a token is. -/
def condition? : Kind → Option Condition
  | .condition c => some c
  | _ => none

/-- The connective that a token is. -/
def connective? : Kind → Option Connective
  | .connective k => some k
  | _ => none

/-- The conditions in a row of tokens. -/
def conditions (ks : List Kind) : List Condition := ks.filterMap condition?

/-- The connectives in a row of tokens. -/
def connectives (ks : List Kind) : List Connective := ks.filterMap connective?

/-- The parentheses of a row of tokens are balanced, with `nesting` of them open in front of it. -/
inductive Closes : (nesting : Nat) → List Kind → Prop
  | nil : Closes 0 []
  | condition {n : Nat} {c : Condition} {ks : List Kind} :
      Closes n ks → Closes n (.condition c :: ks)
  | connective {n : Nat} {k : Connective} {ks : List Kind} :
      Closes n ks → Closes n (.connective k :: ks)
  | openParen {n : Nat} {ks : List Kind} : Closes (n + 1) ks → Closes n (.openParen :: ks)
  | closeParen {n : Nat} {ks : List Kind} : Closes n ks → Closes (n + 1) (.closeParen :: ks)

end Token.Kind

namespace Postfix

/-- The condition that an item is. -/
def condition? : Postfix → Option Condition
  | .operand c => some c
  | .connective _ _ => none

/-- The connective that an item is. -/
def connective? : Postfix → Option Connective
  | .operand _ => none
  | .connective k _ => some k

/-- The conditions in a postfix order. -/
def conditions (items : List Postfix) : List Condition := items.filterMap condition?

/-- The connectives in a postfix order. -/
def connectives (items : List Postfix) : List Connective := items.filterMap connective?

/-- The item that what waits on a stack becomes; a parenthesis becomes none. -/
def Pending.item? : Pending → Option Postfix
  | .connective k position => some (.connective k position)
  | .openParen _ => none

/-- The items that wait on a stack, from its top to its bottom. -/
def Pending.items (stack : List Pending) : List Postfix := stack.filterMap item?

/-- The number of parentheses that are open on a stack. -/
def Pending.nesting : List Pending → Nat
  | [] => 0
  | .connective _ _ :: stack => nesting stack
  | .openParen _ :: stack => nesting stack + 1

end Postfix

namespace Token

/-- The item that a token becomes; a parenthesis becomes none. -/
def item? : Token → Option Postfix
  | ⟨.condition c, _⟩ => some (.operand c)
  | ⟨.connective k, position⟩ => some (.connective k position)
  | ⟨.openParen, _⟩ => none
  | ⟨.closeParen, _⟩ => none

/-- The items of a row of tokens. -/
def items (ts : List Token) : List Postfix := ts.filterMap item?

end Token

namespace Tree

/-- The connectives of a tree, each behind those of its two sides. -/
def connectives : Tree → List Connective
  | .leaf _ => []
  | .node k left right => left.connectives ++ right.connectives ++ [k]

/-- A tree has one condition more than it has connectives. -/
theorem length_leaves (t : Tree) : t.leaves.length = t.connectives.length + 1 := by
  induction t with
  | leaf c => rfl
  | node k l r ihl ihr =>
    simp only [leaves, connectives, List.length_append, List.length_singleton, ihl, ihr]
    omega

/-- What holds of the conditions of a join holds of those of its two sides. -/
theorem forall_mem_leaves_node {P : Condition → Prop} {k : Connective} {left right : Tree} :
    (∀ c ∈ (node k left right).leaves, P c) ↔
      (∀ c ∈ left.leaves, P c) ∧ ∀ c ∈ right.leaves, P c := List.forall_mem_append

/-- What holds of the connectives of a join holds of its own and of those of its two sides. -/
theorem forall_mem_connectives_node {P : Connective → Prop} {k : Connective}
    {left right : Tree} :
    (∀ j ∈ (node k left right).connectives, P j) ↔
      ((∀ j ∈ left.connectives, P j) ∧ ∀ j ∈ right.connectives, P j) ∧ P k := by
  rw [connectives, List.forall_mem_append, List.forall_mem_append, List.forall_mem_singleton]

/-! ## Building -/

/-- The conditions of a stack of trees, from its bottom to its top. -/
def stackLeaves (stack : List Graded) : List Condition := stack.reverse.flatMap (·.tree.leaves)

/-- The connectives of a stack of trees, from its bottom to its top. -/
def stackConnectives (stack : List Graded) : List Connective :=
  stack.reverse.flatMap (·.tree.connectives)

/-- One item adds itself to the stack, and changes nothing else. -/
theorem stack_of_pushItem {stack stack' : List Graded} {item : Postfix}
    (h : pushItem stack item = .ok stack') :
    stackLeaves stack' = stackLeaves stack ++ item.condition?.toList ∧
      stackConnectives stack' = stackConnectives stack ++ item.connective?.toList := by
  obtain ⟨c, rfl, rfl⟩ | ⟨k, position, left, right, rest, g, rfl, rfl, hg, rfl⟩ :=
    cases_of_pushItem h
  · simp [stackLeaves, stackConnectives, leaves, connectives, Postfix.condition?,
      Postfix.connective?]
  · simp [stackLeaves, stackConnectives, Graded.tree_of_join hg, leaves, connectives,
      Postfix.condition?, Postfix.connective?]

/-- A row of items adds its conditions and its connectives to the stack, in their order. -/
theorem stack_of_foldlM_pushItem {items : List Postfix} {stack stack' : List Graded}
    (h : items.foldlM pushItem stack = .ok stack') :
    stackLeaves stack' = stackLeaves stack ++ Postfix.conditions items ∧
      stackConnectives stack' = stackConnectives stack ++ Postfix.connectives items := by
  induction items generalizing stack with
  | nil =>
    cases h
    simp [Postfix.conditions, Postfix.connectives]
  | cons item items ih =>
    rw [List.foldlM_cons] at h
    obtain ⟨middle, hstep, hrest⟩ := bind_eq_ok.1 h
    obtain ⟨hleaves, hconnectives⟩ := stack_of_pushItem hstep
    obtain ⟨ihleaves, ihconnectives⟩ := ih hrest
    constructor
    · rw [ihleaves, hleaves, List.append_assoc]
      cases item <;> rfl
    · rw [ihconnectives, hconnectives, List.append_assoc]
      cases item <;> rfl

/-- A row of items that cannot be applied has a connective that cannot. -/
theorem cases_of_foldlM_pushItem_eq_error {items : List Postfix} {stack : List Graded}
    {e : SyntaxError} (h : items.foldlM pushItem stack = .error e) :
    ∃ k position, .connective k position ∈ items ∧
      (e = .missingOperand k.keyword position ∨ e = .tooDeep maxDepth) := by
  induction items generalizing stack with
  | nil => cases h
  | cons item items ih =>
    rw [List.foldlM_cons] at h
    cases hstep : pushItem stack item with
    | error e' =>
      rw [hstep] at h
      cases h
      obtain ⟨k, position, rfl, he⟩ := cases_of_pushItem_eq_error hstep
      exact ⟨k, position, List.mem_cons_self, he⟩
    | ok middle =>
      rw [hstep] at h
      obtain ⟨k, position, hmem, he⟩ := ih h
      exact ⟨k, position, List.mem_cons_of_mem item hmem, he⟩

/-- Every tree of a stack has one condition more than it has connectives. -/
theorem length_stackLeaves (stack : List Graded) :
    (stackLeaves stack).length = (stackConnectives stack).length + stack.length := by
  induction stack with
  | nil => rfl
  | cons g stack ih =>
    have hleaves : stackLeaves (g :: stack) = stackLeaves stack ++ g.tree.leaves := by
      simp [stackLeaves]
    have hconnectives :
        stackConnectives (g :: stack) = stackConnectives stack ++ g.tree.connectives := by
      simp [stackConnectives]
    rw [hleaves, hconnectives, List.length_append, List.length_append, List.length_cons, ih,
      length_leaves]
    omega

/-- What may come of building the items of a rule. -/
inductive ComesOf (items : List Postfix) : Except SyntaxError Tree → Prop
  | built {t : Tree} (leaves : t.leaves = Postfix.conditions items)
      (connectives : t.connectives = Postfix.connectives items) : ComesOf items (.ok t)
  | empty (conditions : Postfix.conditions items = [])
      (connectives : Postfix.connectives items = []) : ComesOf items (.error .emptyExpression)
  | severalTrees {count : Nat} (two_le : 2 ≤ count)
      (count_add : count + (Postfix.connectives items).length =
        (Postfix.conditions items).length) : ComesOf items (.error (.missingConnective count))
  | missingOperand {k : Connective} {position : Nat} (mem : .connective k position ∈ items) :
      ComesOf items (.error (.missingOperand k.keyword position))
  | tooDeep : ComesOf items (.error (.tooDeep maxDepth))

/-- Building comes to a tree with the conditions and the connectives of the items in their order, or
tells what is missing. -/
theorem comesOf_ofPostfix (items : List Postfix) : ComesOf items (ofPostfix items) := by
  cases hfold : items.foldlM pushItem [] with
  | error e =>
    have hfails : ofPostfix items = .error e := by
      rw [ofPostfix, hfold]
      rfl
    obtain ⟨k, position, hmem, rfl | rfl⟩ := cases_of_foldlM_pushItem_eq_error hfold
    · rw [hfails]
      exact .missingOperand hmem
    · rw [hfails]
      exact .tooDeep
  | ok stack =>
    have honly : ofPostfix items = only stack := by
      rw [ofPostfix, hfold]
      rfl
    obtain ⟨hleaves, hconnectives⟩ := stack_of_foldlM_pushItem hfold
    rw [honly]
    match stack with
    | [] => exact .empty hleaves.symm hconnectives.symm
    | [g] =>
      refine .built ?_ ?_
      · simpa [stackLeaves] using hleaves
      · simpa [stackConnectives] using hconnectives
    | g :: g' :: rest =>
      have hleaves' : stackLeaves (g :: g' :: rest) = Postfix.conditions items := hleaves
      have hconnectives' : stackConnectives (g :: g' :: rest) = Postfix.connectives items :=
        hconnectives
      refine .severalTrees (by simp) ?_
      rw [← hleaves', ← hconnectives', length_stackLeaves]
      exact Nat.add_comm _ _

/-- A tree that is built has the conditions and the connectives of its items, in their order. -/
theorem leaves_of_ofPostfix {items : List Postfix} {t : Tree} (h : ofPostfix items = .ok t) :
    t.leaves = Postfix.conditions items ∧ t.connectives = Postfix.connectives items := by
  have hcomes := comesOf_ofPostfix items
  rw [h] at hcomes
  cases hcomes with
  | built leaves connectives => exact ⟨leaves, connectives⟩

end Tree

namespace Postfix

open Token.Kind (Closes)

/-! ## Arranging -/

theorem conditions_append (as bs : List Postfix) :
    conditions (as ++ bs) = conditions as ++ conditions bs := List.filterMap_append

/-- The connectives among the items of tokens are those of the tokens. -/
theorem connectives_items (ts : List Token) :
    connectives (Token.items ts) = Token.Kind.connectives (ts.map (·.kind)) := by
  have hitem (t : Token) : t.item?.bind connective? = t.kind.connective? := by
    obtain ⟨kind, position⟩ := t
    cases kind <;> rfl
  rw [connectives, Token.items, Token.Kind.connectives, List.filterMap_filterMap,
    List.filterMap_map]
  exact congrArg (List.filterMap · ts) (funext hitem)

/-- What came off a stack stands in front of what follows, instead of with the rest of the stack. -/
theorem perm_of_popped {popped after tokens rest stack : List Postfix}
    (hafter : after.Perm (tokens ++ rest)) (hstack : popped ++ rest = stack) :
    (popped ++ after).Perm (tokens ++ stack) := by
  rw [← hstack]
  exact (hafter.append_left popped).trans (List.perm_append_comm_assoc popped tokens rest)

/-- What comes off a stack is no condition, and it was what waited on top. -/
theorem stack_of_popTighter (p : Nat) (stack : List Pending) :
    conditions (popTighter p stack).1 = [] ∧
      (popTighter p stack).1 ++ Pending.items (popTighter p stack).2 = Pending.items stack ∧
      Pending.nesting (popTighter p stack).2 = Pending.nesting stack := by
  fun_induction popTighter p stack with
  | case1 => exact ⟨rfl, rfl, rfl⟩
  | case2 top position stack _ popped rest hpop ih =>
    rw [hpop] at ih
    obtain ⟨hconditions, hitems, hnesting⟩ := ih
    exact ⟨hconditions, congrArg (connective top position :: ·) hitems, hnesting⟩
  | case3 => exact ⟨rfl, rfl, rfl⟩

/-- The end of a group takes off connectives and one parenthesis. -/
theorem stack_of_popGroup? {stack rest : List Pending} {popped : List Postfix}
    (h : popGroup? stack = some (popped, rest)) :
    conditions popped = [] ∧ popped ++ Pending.items rest = Pending.items stack ∧
      Pending.nesting stack = Pending.nesting rest + 1 := by
  induction stack generalizing popped with
  | nil => cases h
  | cons top stack ih =>
    cases top with
    | openParen position =>
      cases h
      exact ⟨rfl, rfl, rfl⟩
    | connective k position =>
      obtain ⟨⟨popped', rest'⟩, hpop, heq⟩ := Option.map_eq_some_iff.1 h
      cases heq
      obtain ⟨hconditions, hitems, hnesting⟩ := ih hpop
      exact ⟨hconditions, congrArg (connective k position :: ·) hitems, hnesting⟩

/-- The end of the text takes off all connectives, if no parenthesis is open. -/
theorem stack_of_drain {stack : List Pending} {items : List Postfix} (h : drain stack = .ok items) :
    conditions items = [] ∧ items = Pending.items stack ∧ Pending.nesting stack = 0 := by
  induction stack generalizing items with
  | nil =>
    cases h
    exact ⟨rfl, rfl, rfl⟩
  | cons top stack ih =>
    cases top with
    | openParen position => cases h
    | connective k position =>
      obtain ⟨items', hdrain, rfl⟩ := map_eq_ok.1 h
      obtain ⟨hconditions, hitems, hnesting⟩ := ih hdrain
      exact ⟨hconditions, congrArg (connective k position :: ·) hitems, hnesting⟩

/-- Arranging keeps the conditions in their order and the items of the tokens and the stack in some
order, and comes to an end only if the parentheses close. -/
theorem stack_of_arrange {ts : List Token} {stack : List Pending} {items : List Postfix}
    (h : arrange stack ts = .ok items) :
    conditions items = Token.Kind.conditions (ts.map (·.kind)) ∧
      items.Perm (Token.items ts ++ Pending.items stack) ∧
      Closes (Pending.nesting stack) (ts.map (·.kind)) := by
  induction ts generalizing stack items with
  | nil =>
    obtain ⟨hconditions, hitems, hnesting⟩ := stack_of_drain h
    refine ⟨hconditions, .of_eq hitems, ?_⟩
    rw [hnesting]
    exact .nil
  | cons t ts ih =>
    obtain ⟨kind, position⟩ := t
    cases kind with
    | condition c =>
      obtain ⟨items', hrest, rfl⟩ := map_eq_ok.1 h
      obtain ⟨hconditions, hitems, hcloses⟩ := ih hrest
      exact ⟨congrArg (c :: ·) hconditions, hitems.cons (.operand c), .condition hcloses⟩
    | openParen =>
      obtain ⟨hconditions, hitems, hcloses⟩ := ih h
      exact ⟨hconditions, hitems, .openParen hcloses⟩
    | connective k =>
      -- What comes off stands in front of the rest, and the connective takes its place.
      have hpopped := stack_of_popTighter k.precedence stack
      rw [arrange] at h
      generalize popTighter k.precedence stack = top at h hpopped
      obtain ⟨popped, rest⟩ := top
      obtain ⟨hpconditions, hpitems, hpnesting⟩ := hpopped
      obtain ⟨items', hrest, rfl⟩ := map_eq_ok.1 h
      obtain ⟨hconditions, hitems, hcloses⟩ := ih hrest
      refine ⟨?_, ?_, .connective (hpnesting ▸ hcloses)⟩
      · rw [conditions_append, hpconditions]
        exact hconditions
      · refine (perm_of_popped hitems rfl).trans ?_
        change (Token.items ts ++ (popped ++ .connective k position :: Pending.items rest)).Perm
          (.connective k position :: (Token.items ts ++ Pending.items stack))
        rw [← hpitems]
        exact (List.perm_middle.append_left _).trans List.perm_middle
    | closeParen =>
      rw [arrange] at h
      split at h
      · cases h
      · rename_i popped rest hpop
        obtain ⟨hpconditions, hpitems, hpnesting⟩ := stack_of_popGroup? hpop
        obtain ⟨items', hrest, rfl⟩ := map_eq_ok.1 h
        obtain ⟨hconditions, hitems, hcloses⟩ := ih hrest
        refine ⟨?_, ?_, ?_⟩
        · rw [conditions_append, hpconditions]
          exact hconditions
        -- A parenthesis is no item, so only the popped ones have moved.
        · exact perm_of_popped hitems hpitems
        · rw [hpnesting]
          exact .closeParen hcloses

/-- The postfix order of tokens has their conditions in order and their items in some order. -/
theorem perm_of_ofTokens {ts : List Token} {items : List Postfix} (h : ofTokens ts = .ok items) :
    conditions items = Token.Kind.conditions (ts.map (·.kind)) ∧
      items.Perm (Token.items ts) := by
  obtain ⟨hconditions, hitems, -⟩ := stack_of_arrange h
  rw [Pending.items, List.filterMap_nil, List.append_nil] at hitems
  exact ⟨hconditions, hitems⟩

/-- Items in another order have the connectives of the tokens. -/
theorem perm_connectives_of_perm {ts : List Token} {items : List Postfix}
    (h : items.Perm (Token.items ts)) :
    (connectives items).Perm (Token.Kind.connectives (ts.map (·.kind))) := by
  rw [← connectives_items]
  exact h.filterMap connective?

end Postfix

/-! ## Compiling -/

/-- A compiled text was cut into tokens, arranged and built. -/
theorem exists_of_compile_eq_ok {source : String} {t : Tree} (h : compile source = .ok t) :
    ∃ tokens items, Token.scan source = .ok tokens ∧ Postfix.ofTokens tokens = .ok items ∧
      Tree.ofPostfix items = .ok t := by
  obtain ⟨items, harranged, hbuilt⟩ := bind_eq_ok.1 h
  obtain ⟨tokens, hscanned, harranged⟩ := bind_eq_ok.1 harranged
  exact ⟨tokens, items, hscanned, harranged, hbuilt⟩

/-- The conditions of a compiled tree are those of the text, in the order of the text. -/
theorem leaves_of_compile {source : String} {tokens : List Token} {t : Tree}
    (scanned : Token.scan source = .ok tokens) (compiled : compile source = .ok t) :
    t.leaves = Token.Kind.conditions (tokens.map (·.kind)) := by
  obtain ⟨tokens', items, hscanned, harranged, hbuilt⟩ := exists_of_compile_eq_ok compiled
  cases scanned.symm.trans hscanned
  rw [(Tree.leaves_of_ofPostfix hbuilt).1, (Postfix.perm_of_ofTokens harranged).1]

/-- The connectives of a compiled tree are those of the text. -/
theorem perm_connectives_of_compile {source : String} {tokens : List Token} {t : Tree}
    (scanned : Token.scan source = .ok tokens) (compiled : compile source = .ok t) :
    t.connectives.Perm (Token.Kind.connectives (tokens.map (·.kind))) := by
  obtain ⟨tokens', items, hscanned, harranged, hbuilt⟩ := exists_of_compile_eq_ok compiled
  cases scanned.symm.trans hscanned
  rw [(Tree.leaves_of_ofPostfix hbuilt).2]
  exact Postfix.perm_connectives_of_perm (Postfix.perm_of_ofTokens harranged).2

/-- The parentheses of a compiled text are balanced. -/
theorem closes_of_compile {source : String} {tokens : List Token} {t : Tree}
    (scanned : Token.scan source = .ok tokens) (compiled : compile source = .ok t) :
    Token.Kind.Closes 0 (tokens.map (·.kind)) := by
  obtain ⟨tokens', items, hscanned, harranged, -⟩ := exists_of_compile_eq_ok compiled
  cases scanned.symm.trans hscanned
  exact (Postfix.stack_of_arrange harranged).2.2

end Rulebook
