import Rulebook.Proofs.Depth
import Rulebook.Proofs.Grammar

/-!
# Compiling infix expressions

A text whose tokens are derived from the grammar is compiled to the tree of the derivation, and
refused only where that tree has too many levels (`compile_eq_of_kinds_eq`).

The proof carries one statement through the grammar. Tokens of precedence `p` are read to a tree
(`ReadsTo`) if on every stack whose top binds less tightly than `p` they give some items and leave
some connectives on the stack, all of which bind at least as tightly as `p`, and the items with
these connectives behind them build the tree (`Builds`). A factor is read at precedence 3, above
every connective, so it leaves nothing on the stack.
-/

namespace Rulebook

open Grammar

namespace Postfix

/-! ## Building -/

/-- The items put a tree on every stack of trees, unless the tree has too many levels. -/
def Builds (items : List Postfix) (t : Tree) : Prop :=
  ∀ stack, items.foldlM Tree.pushItem stack =
    if t.depth ≤ Tree.maxDepth then .ok (⟨t, t.depth⟩ :: stack)
    else .error (.tooDeep Tree.maxDepth)

/-- A condition builds its leaf. -/
theorem builds_operand (c : Condition) : Builds [.operand c] (.leaf c) := by
  intro stack
  have hdepth : (Tree.leaf c).depth ≤ Tree.maxDepth := show 1 ≤ 100 by decide
  rw [if_pos hdepth]
  rfl

/-- What builds two trees, with a connective behind it, builds their join. -/
theorem Builds.join {as bs : List Postfix} {l r : Tree} (hl : Builds as l) (hr : Builds bs r)
    (k : Connective) (position : Nat) :
    Builds (as ++ (bs ++ [.connective k position])) (.node k l r) := by
  intro stack
  rw [List.foldlM_append, hl]
  have hdepth : (Tree.node k l r).depth = 1 + max l.depth r.depth := rfl
  -- A side that is too deep is refused itself, and a join is no less deep than its sides.
  by_cases hld : l.depth ≤ Tree.maxDepth
  · rw [if_pos hld]
    change List.foldlM Tree.pushItem (⟨l, l.depth⟩ :: stack) (bs ++ [_]) = _
    rw [List.foldlM_append, hr]
    by_cases hrd : r.depth ≤ Tree.maxDepth
    · rw [if_pos hrd]
      change (Tree.Graded.join k ⟨l, l.depth⟩ ⟨r, r.depth⟩).map (· :: stack) >>= pure = _
      rw [Tree.Graded.join_eq]
      split <;> rfl
    · rw [if_neg hrd, if_neg (by omega)]
      rfl
  · rw [if_neg hld, if_neg (by omega)]
    rfl

/-- The items of a tree as a whole rule. -/
theorem ofPostfix_of_builds {items : List Postfix} {t : Tree} (h : Builds items t) :
    Tree.ofPostfix items =
      if t.depth ≤ Tree.maxDepth then .ok t else .error (.tooDeep Tree.maxDepth) := by
  rw [Tree.ofPostfix, h]
  split <;> rfl

/-! ## Waiting connectives -/

/-- Connectives with their positions, as they wait on the stack. -/
def waiting (ks : List (Connective × Nat)) : List Pending := ks.map fun k => .connective k.1 k.2

/-- Connectives with their positions, as they come off the stack. -/
def taken (ks : List (Connective × Nat)) : List Postfix := ks.map fun k => .connective k.1 k.2

/-- The connectives on top that bind tightly enough come off, and no others. -/
theorem popTighter_waiting {p : Nat} {ks : List (Connective × Nat)} {stack : List Pending}
    (hks : ∀ k ∈ ks, p ≤ k.1.precedence) (hstack : popTighter p stack = ([], stack)) :
    popTighter p (waiting ks ++ stack) = (taken ks, stack) := by
  induction ks with
  | nil => exact hstack
  | cons k ks ih =>
    have hk : ¬ k.1.precedence < p := Nat.not_lt.2 (hks k (List.mem_cons_self))
    have hrest := ih fun k' hk' => hks k' (List.mem_cons_of_mem k hk')
    change popTighter p (.connective k.1 k.2 :: (waiting ks ++ stack)) = _
    rw [popTighter, if_neg hk, hrest]
    rfl

/-- The end of a group takes off what waits in it. -/
theorem popGroup?_waiting (ks : List (Connective × Nat)) (position : Nat) (stack : List Pending) :
    popGroup? (waiting ks ++ .openParen position :: stack) = some (taken ks, stack) := by
  induction ks with
  | nil => rfl
  | cons k ks ih =>
    change popGroup? (.connective k.1 k.2 :: (waiting ks ++ .openParen position :: stack)) = _
    rw [popGroup?, ih]
    rfl

/-- The end of the text takes off what waits. -/
theorem drain_waiting (ks : List (Connective × Nat)) : drain (waiting ks) = .ok (taken ks) := by
  induction ks with
  | nil => rfl
  | cons k ks ih =>
    change drain (.connective k.1 k.2 :: waiting ks) = _
    rw [drain, ih]
    rfl

/-- A stack with nothing on top that binds as tightly as `p` has nothing that binds more tightly. -/
theorem popTighter_eq_of_le {p q : Nat} (hpq : p ≤ q) {stack : List Pending}
    (h : popTighter p stack = ([], stack)) : popTighter q stack = ([], stack) := by
  match stack with
  | [] => rfl
  | .openParen _ :: _ => rfl
  | .connective top _ :: _ =>
    rcases Nat.lt_or_ge top.precedence p with hlt | hge
    · rw [popTighter, if_pos (Nat.lt_of_lt_of_le hlt hpq)]
    · rw [popTighter, if_neg (Nat.not_lt.2 hge)] at h
      simp at h

/-! ## Reading -/

/-- Items in front of items in front of a result. -/
theorem map_append_map_append (as bs : List Postfix) (x : Except SyntaxError (List Postfix)) :
    (x.map (bs ++ ·)).map (as ++ ·) = x.map (as ++ bs ++ ·) := by
  cases x with
  | error e => rfl
  | ok items => exact congrArg Except.ok (List.append_assoc as bs items).symm

/-- Tokens of precedence `p` are read to a tree. -/
def ReadsTo (p : Nat) (ts : List Token) (t : Tree) : Prop :=
  ∃ (items : List Postfix) (ks : List (Connective × Nat)), (∀ k ∈ ks, p ≤ k.1.precedence) ∧
    Builds (items ++ taken ks) t ∧
    ∀ stack rest, popTighter p stack = ([], stack) →
      arrange stack (ts ++ rest) = (arrange (waiting ks ++ stack) rest).map (items ++ ·)

/-- What is read at some precedence is read at every lower one. -/
theorem ReadsTo.of_le {p q : Nat} {ts : List Token} {t : Tree} (h : ReadsTo q ts t) (hpq : p ≤ q) :
    ReadsTo p ts t := by
  obtain ⟨items, ks, hks, hbuilds, harrange⟩ := h
  exact ⟨items, ks, fun k hk => Nat.le_trans hpq (hks k hk), hbuilds,
    fun stack rest hstack => harrange stack rest (popTighter_eq_of_le hpq hstack)⟩

/-- A condition is read to its leaf. -/
theorem readsTo_condition (c : Condition) (position p : Nat) :
    ReadsTo p [⟨.condition c, position⟩] (.leaf c) :=
  ⟨[.operand c], [], by simp, builds_operand c, fun _ _ _ => rfl⟩

/-- A group is read to the tree inside it and leaves nothing on the stack. -/
theorem ReadsTo.group {ts : List Token} {t : Tree} (h : ReadsTo 1 ts t) (opened closed : Nat) :
    ReadsTo 3 (⟨.openParen, opened⟩ :: (ts ++ [⟨.closeParen, closed⟩])) t := by
  obtain ⟨items, ks, -, hbuilds, harrange⟩ := h
  refine ⟨items ++ taken ks, [], by simp, by simpa [taken] using hbuilds, ?_⟩
  intro stack rest _
  rw [List.cons_append, List.append_assoc, List.singleton_append, arrange,
    harrange (.openParen opened :: stack) _ rfl, arrange, popGroup?_waiting]
  exact map_append_map_append _ _ _

/-- A connective of precedence `p` joins what is read on its left at `p` and on its right above
`p`, for it takes off the connectives that wait on its left and leaves those on its right. -/
theorem ReadsTo.join {ls rs : List Token} {l r : Tree} (k : Connective) (position : Nat)
    (hl : ReadsTo k.precedence ls l) (hr : ReadsTo (k.precedence + 1) rs r) :
    ReadsTo k.precedence (ls ++ ⟨.connective k, position⟩ :: rs) (.node k l r) := by
  obtain ⟨as, ks, hks, hbuildsl, harrangel⟩ := hl
  obtain ⟨bs, js, hjs, hbuildsr, harranger⟩ := hr
  refine ⟨as ++ taken ks ++ bs, js ++ [(k, position)], ?_, ?_, ?_⟩
  -- What waits on the right binds above `p`, and the connective itself at `p`.
  · intro j hj
    rcases List.mem_append.1 hj with hj | hj
    · exact Nat.le_of_succ_le (hjs j hj)
    · obtain rfl := List.mem_singleton.1 hj
      exact Nat.le_refl _
  · have hjoin := hbuildsl.join hbuildsr k position
    simpa [taken] using hjoin
  · intro stack rest hstack
    -- The right side is read on the connective, which binds less tightly than what comes there.
    have hafter : popTighter (k.precedence + 1) (.connective k position :: stack) =
        ([], .connective k position :: stack) := by
      rw [popTighter, if_pos (Nat.lt_succ_self _)]
    have hwaiting : waiting (js ++ [(k, position)]) ++ stack =
        waiting js ++ .connective k position :: stack := by
      simp [waiting]
    calc arrange stack (ls ++ ⟨.connective k, position⟩ :: rs ++ rest)
        = (arrange (waiting ks ++ stack) (⟨.connective k, position⟩ :: (rs ++ rest))).map
            (as ++ ·) := by
          rw [List.append_assoc, List.cons_append, harrangel stack _ hstack]
      _ = ((arrange (.connective k position :: stack) (rs ++ rest)).map (taken ks ++ ·)).map
            (as ++ ·) := by
          rw [arrange, popTighter_waiting hks hstack]
      _ = (((arrange (waiting (js ++ [(k, position)]) ++ stack) rest).map (bs ++ ·)).map
            (taken ks ++ ·)).map (as ++ ·) := by
          rw [harranger _ rest hafter, hwaiting]
      _ = (arrange (waiting (js ++ [(k, position)]) ++ stack) rest).map
            (as ++ taken ks ++ bs ++ ·) := by
          rw [map_append_map_append, map_append_map_append]

/-! ## Reading what the grammar derives -/

/-- The kinds of a row of tokens in two parts around one kind are those of tokens in two parts. -/
theorem exists_eq_append_cons_of_map_kind {ts : List Token} {ks js : List Token.Kind}
    {k : Token.Kind} (h : ts.map (·.kind) = ks ++ k :: js) :
    ∃ (ls rs : List Token) (position : Nat), ts = ls ++ ⟨k, position⟩ :: rs ∧
      ls.map (·.kind) = ks ∧ rs.map (·.kind) = js := by
  obtain ⟨ls, us, rfl, hls, hus⟩ := List.map_eq_append_iff.1 h
  obtain ⟨⟨kind, position⟩, rs, rfl, rfl, hrs⟩ := List.map_eq_cons_iff.1 hus
  exact ⟨ls, rs, position, rfl, hls, hrs⟩

mutual

/-- The tokens of an expression are read to its tree. -/
theorem readsTo_expression : ∀ (e : Expression) {ts : List Token}, ts.map (·.kind) = e.kinds →
    ReadsTo 1 ts e.tree
  | .term t, ts, h => by
    rw [Expression.kinds] at h
    exact (readsTo_term t h).of_le (by decide)
  | .or left right, ts, h => by
    rw [Expression.kinds] at h
    obtain ⟨ls, rs, position, rfl, hls, hrs⟩ := exists_eq_append_cons_of_map_kind h
    exact .join .or position (readsTo_expression left hls) (readsTo_term right hrs)

/-- The tokens of a term are read to its tree. -/
theorem readsTo_term : ∀ (t : Term) {ts : List Token}, ts.map (·.kind) = t.kinds →
    ReadsTo 2 ts t.tree
  | .factor f, ts, h => by
    rw [Term.kinds] at h
    exact (readsTo_factor f h).of_le (by decide)
  | .and left right, ts, h => by
    rw [Term.kinds] at h
    obtain ⟨ls, rs, position, rfl, hls, hrs⟩ := exists_eq_append_cons_of_map_kind h
    exact .join .and position (readsTo_term left hls) (readsTo_factor right hrs)

/-- The tokens of a factor are read to its tree. -/
theorem readsTo_factor : ∀ (f : Factor) {ts : List Token}, ts.map (·.kind) = f.kinds →
    ReadsTo 3 ts f.tree
  | .condition c, ts, h => by
    have hkinds : ts.map (·.kind) = [] ++ [.condition c] := h
    obtain ⟨ls, rs, position, rfl, hls, hrs⟩ := exists_eq_append_cons_of_map_kind hkinds
    rw [List.map_eq_nil_iff.1 hls, List.map_eq_nil_iff.1 hrs]
    exact readsTo_condition c position 3
  | .group e, ts, h => by
    have hkinds : ts.map (·.kind) = [] ++ .openParen :: (e.kinds ++ [.closeParen]) := h
    obtain ⟨us, rs, opened, rfl, hus, hrs⟩ := exists_eq_append_cons_of_map_kind hkinds
    obtain ⟨inner, vs, closed, rfl, hinner, hvs⟩ := exists_eq_append_cons_of_map_kind hrs
    rw [List.map_eq_nil_iff.1 hus, List.map_eq_nil_iff.1 hvs]
    exact (readsTo_expression e hinner).group opened closed

end

/-- What is read to a tree is arranged to items that build the tree. -/
theorem ReadsTo.exists_ofTokens_eq {ts : List Token} {t : Tree} (h : ReadsTo 1 ts t) :
    ∃ items, ofTokens ts = .ok items ∧ Builds items t := by
  obtain ⟨items, ks, -, hbuilds, harrange⟩ := h
  refine ⟨items ++ taken ks, ?_, hbuilds⟩
  -- Behind the last token nothing is on the stack but what waits there.
  have hdone := harrange [] [] rfl
  rw [List.append_nil, List.append_nil, arrange, drain_waiting] at hdone
  exact hdone

end Postfix

/-- A text whose tokens are derived from the grammar is compiled to the tree of the derivation, and
is refused only if that tree has more than 100 levels. -/
theorem compile_eq_of_kinds_eq {source : String} {tokens : List Token}
    (scanned : Token.scan source = .ok tokens) (e : Expression)
    (derived : tokens.map (·.kind) = e.kinds) :
    compile source =
      if e.tree.depth ≤ 100 then .ok e.tree else .error (.tooDeep 100) := by
  obtain ⟨items, harranged, hbuilds⟩ :=
    (Postfix.readsTo_expression e derived).exists_ofTokens_eq
  calc compile source
      = Postfix.ofTokens tokens >>= Tree.ofPostfix := by rw [compile, scanned]; rfl
    _ = Tree.ofPostfix items := by rw [harranged]; rfl
    _ = _ := Postfix.ofPostfix_of_builds hbuilds

/-- A group behind an `OR` and in front of an `AND`. -/
theorem compile_group_between_or_and :
    compile "a<'1' OR (b>='2' OR c='3') AND d>'4'" =
      .ok (.node .or (.leaf ⟨"a", .lt, .text "1"⟩)
        (.node .and
          (.node .or (.leaf ⟨"b", .ge, .text "2"⟩) (.leaf ⟨"c", .eq, .text "3"⟩))
          (.leaf ⟨"d", .gt, .text "4"⟩))) :=
  have scanned : Token.scan "a<'1' OR (b>='2' OR c='3') AND d>'4'" =
      .ok [⟨.condition ⟨"a", .lt, .text "1"⟩, 0⟩, ⟨.connective .or, 6⟩, ⟨.openParen, 9⟩,
        ⟨.condition ⟨"b", .ge, .text "2"⟩, 10⟩, ⟨.connective .or, 17⟩,
        ⟨.condition ⟨"c", .eq, .text "3"⟩, 20⟩, ⟨.closeParen, 25⟩, ⟨.connective .and, 27⟩,
        ⟨.condition ⟨"d", .gt, .text "4"⟩, 31⟩] := by decide +kernel
  compile_eq_of_kinds_eq scanned
    (.or (.term (.factor (.condition ⟨"a", .lt, .text "1"⟩)))
      (.and (.factor (.group (.or (.term (.factor (.condition ⟨"b", .ge, .text "2"⟩)))
          (.factor (.condition ⟨"c", .eq, .text "3"⟩)))))
        (.condition ⟨"d", .gt, .text "4"⟩)))
    rfl

end Rulebook
