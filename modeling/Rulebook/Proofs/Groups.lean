import Rulebook.Proofs.Conjunction
import Rulebook.Proofs.Infix
import Rulebook.Proofs.Positions
import Rulebook.Proofs.Scan

/-!
# Texts in parentheses

A text that is compiled to a tree is compiled to the same tree in parentheses, and several of them,
each in parentheses, with `AND` between them are compiled to the tree that `combine` makes of them
(`compile_conjunction`).

The tokens of a text are the same wherever it stands between parentheses (`Token.Spells.group`), no
token of a group touches what was on the stack in front of it (`Postfix.arrange_group`), and the
items of a compiled text leave alone the trees that were built before
(`Postfix.foldlM_pushItem_append`). None of this asks that the text is an infix expression.
-/

namespace Rulebook

open Lexeme (Stops stops_cons)

/-- The text of some texts, each in parentheses, with `AND` between them. -/
def conjunction (sources : List String) : String :=
  " AND ".intercalate (sources.map fun source => "(" ++ source ++ ")")

namespace Postfix

/-! ## What stays below a group -/

/-- Nothing below an open parenthesis comes off the stack. -/
theorem popTighter_append_openParen (precedence : Nat) (stack : List Pending) (position : Nat)
    (below : List Pending) :
    popTighter precedence (stack ++ .openParen position :: below) =
      ((popTighter precedence stack).1,
        (popTighter precedence stack).2 ++ .openParen position :: below) := by
  induction stack with
  | nil => rfl
  | cons top stack ih =>
    cases top with
    | openParen _ => rfl
    | connective k _ =>
      rw [List.cons_append, popTighter, popTighter, ih]
      split <;> rfl

/-- The innermost group comes off the stack, whatever is below. -/
theorem popGroup?_append {stack rest : List Pending} {popped : List Postfix}
    (h : popGroup? stack = some (popped, rest)) (below : List Pending) :
    popGroup? (stack ++ below) = some (popped, rest ++ below) := by
  induction stack generalizing popped with
  | nil => cases h
  | cons top stack ih =>
    cases top with
    | openParen _ =>
      cases h
      rfl
    | connective k _ =>
      obtain ⟨⟨popped', rest'⟩, hgroup, heq⟩ := Option.map_eq_some_iff.1 h
      cases heq
      rw [List.cons_append, popGroup?, ih hgroup]
      rfl

/-- What is left at the end of a text is what the end of a group takes off. -/
theorem popGroup?_of_drain {stack : List Pending} {items : List Postfix}
    (h : drain stack = .ok items) (position : Nat) (below : List Pending) :
    popGroup? (stack ++ .openParen position :: below) = some (items, below) := by
  induction stack generalizing items with
  | nil =>
    cases h
    rfl
  | cons top stack ih =>
    cases top with
    | openParen _ => cases h
    | connective k _ =>
      obtain ⟨items', hdrain, rfl⟩ := map_eq_ok.1 h
      rw [List.cons_append, popGroup?, ih hdrain]
      rfl

/-- The tokens of a group give the items that they give alone. -/
theorem arrange_group {stack : List Pending} {ts : List Token} {items : List Postfix}
    (h : arrange stack ts = .ok items) (opened closed : Nat) (below : List Pending)
    (rest : List Token) :
    arrange (stack ++ .openParen opened :: below) (ts ++ ⟨.closeParen, closed⟩ :: rest) =
      (arrange below rest).map (items ++ ·) := by
  induction ts generalizing stack items with
  | nil => rw [List.nil_append, arrange, popGroup?_of_drain h]
  | cons t ts ih =>
    obtain ⟨kind, position⟩ := t
    rw [List.cons_append]
    cases kind with
    | condition c =>
      obtain ⟨items', harrange, rfl⟩ := map_eq_ok.1 h
      rw [arrange, ih harrange]
      exact map_append_map_append [_] _ _
    | openParen => exact ih h
    | connective k =>
      obtain ⟨items', harrange, rfl⟩ := map_eq_ok.1 h
      rw [arrange, popTighter_append_openParen]
      dsimp only
      rw [← List.cons_append, ih harrange]
      exact map_append_map_append _ _ _
    | closeParen =>
      rw [arrange] at h ⊢
      cases hgroup : popGroup? stack with
      | none =>
        rw [hgroup] at h
        cases h
      | some group =>
        rw [hgroup] at h
        obtain ⟨items', harrange, rfl⟩ := map_eq_ok.1 h
        rw [popGroup?_append hgroup]
        dsimp only
        rw [ih harrange]
        exact map_append_map_append _ _ _

/-- Items that make trees leave the trees below alone. -/
theorem foldlM_pushItem_append {items : List Postfix} {stack stack' : List Tree.Graded}
    (h : items.foldlM Tree.pushItem stack = .ok stack') (below : List Tree.Graded) :
    items.foldlM Tree.pushItem (stack ++ below) = .ok (stack' ++ below) := by
  induction items generalizing stack with
  | nil =>
    cases h
    rfl
  | cons item items ih =>
    rw [List.foldlM_cons] at h ⊢
    obtain ⟨middle, hstep, hrest⟩ := bind_eq_ok.1 h
    have hstep' : Tree.pushItem (stack ++ below) item = .ok (middle ++ below) := by
      obtain ⟨c, rfl, rfl⟩ | ⟨k, position, left, right, rest, g, rfl, rfl, hg, rfl⟩ :=
        Tree.cases_of_pushItem hstep
      · rfl
      · exact map_eq_ok.2 ⟨g, hg, rfl⟩
    rw [hstep']
    exact ih hrest

/-- The items of a tree build it on every stack. -/
theorem builds_of_ofPostfix {items : List Postfix} {t : Tree}
    (h : Tree.ofPostfix items = .ok t) : Builds items t := by
  obtain ⟨stack, hitems, honly⟩ := bind_eq_ok.1 h
  have htrue := Tree.isTrue_of_foldlM_pushItem (by simp) hitems
  match stack, honly with
  | [g], honly =>
    cases honly
    have hg := htrue g List.mem_cons_self
    intro below
    rw [if_pos hg.depth_le, ← hg.eq_mk]
    exact foldlM_pushItem_append hitems below

/-- Tokens that are compiled to a tree are read to it in parentheses. -/
theorem readsTo_group {ts : List Token} {t : Tree}
    (h : ofTokens ts >>= Tree.ofPostfix = .ok t) (opened closed : Nat) :
    ReadsTo 3 (⟨.openParen, opened⟩ :: (ts ++ [⟨.closeParen, closed⟩])) t := by
  obtain ⟨items, harrange, hbuilt⟩ := bind_eq_ok.1 h
  refine ⟨items, [], by simp, ?_, fun stack rest _ => ?_⟩
  · rw [taken, List.map_nil, List.append_nil]
    exact builds_of_ofPostfix hbuilt
  · rw [List.cons_append, List.append_assoc, List.singleton_append, arrange]
    exact arrange_group harrange opened closed stack rest

/-- Tokens that are read to a tree that is not too deep are compiled to it. -/
theorem ReadsTo.compiled {ts : List Token} {t : Tree} (h : ReadsTo 1 ts t)
    (hdepth : t.depth ≤ Tree.maxDepth) : ofTokens ts >>= Tree.ofPostfix = .ok t := by
  obtain ⟨items, harrange, hbuilds⟩ := h.exists_ofTokens_eq
  rw [harrange]
  exact (ofPostfix_of_builds hbuilds).trans (if_pos hdepth)

end Postfix

namespace Token

/-- A text in parentheses. -/
theorem Spells.group {cs : List Char} {kinds : List Kind} (h : Spells (some '(') cs kinds)
    (before : Option Char) :
    Spells before ('(' :: (cs ++ [')'])) (.openParen :: (kinds ++ [.closeParen])) := by
  have hstops : Stops [')'] := stops_cons (Text.isWord_sign (by simp [Text.signs])) (by decide) []
  exact Spells.openParen (h.append hstops (Spells.closeParen (.nil _))) before

end Token

/-- The tokens of a compiled text have the kinds of the text behind an open parenthesis. -/
theorem exists_spells_of_compile {source : String} {t : Tree} (h : compile source = .ok t) :
    ∃ ts, Token.Spells (some '(') source.toList (ts.map (·.kind)) ∧
      Postfix.ofTokens ts >>= Tree.ofPostfix = .ok t := by
  obtain ⟨items, hitems, hbuilt⟩ := bind_eq_ok.1 h
  obtain ⟨ts, scanned, harranged⟩ := bind_eq_ok.1 hitems
  have hword : (none : Option Char).any Text.isWord = (some '(').any Text.isWord := by
    rw [Option.any_none, Option.any_some, Text.isWord_sign (by simp [Text.signs])]
  exact ⟨ts, (Token.scans_iff.2 scanned).spells hword, bind_eq_ok.2 ⟨items, harranged, hbuilt⟩⟩

/-- The characters of one more text. -/
theorem toList_conjunction_append_singleton {front : List String} (hne : front ≠ [])
    (source : String) :
    (conjunction (front ++ [source])).toList =
      (conjunction front).toList ++
        ' ' :: (Connective.and.keyword.toList ++ ' ' :: '(' :: (source.toList ++ [')'])) := by
  unfold conjunction
  rw [List.map_append, String.intercalate_append_of_ne_nil (by simpa using hne) (by simp),
    List.map_singleton, String.intercalate_singleton]
  simp [Connective.keyword]

/-- The last of some trees is that of the last text. -/
theorem CompileTo.exists_eq_append_singleton {sources : List String} {trees : List Tree}
    {tree : Tree} (h : CompileTo sources (trees ++ [tree])) :
    ∃ front source, sources = front ++ [source] ∧ CompileTo front trees ∧
      compile source = .ok tree := by
  have hfront := List.forall₂_take_append sources trees [tree] h
  have hlast := List.forall₂_drop_append sources trees [tree] h
  obtain ⟨source, rest, htree, hrest, hdrop⟩ := List.forall₂_cons_right_iff.1 hlast
  obtain rfl := List.forall₂_nil_right_iff.1 hrest
  exact ⟨_, source, by rw [← hdrop, List.take_append_drop], hfront, htree⟩

/-- The tokens of compiled texts in parentheses, with `AND` between them, are read to the chain of
their trees. -/
theorem exists_spells_conjunction {sources : List String} {trees : List Tree} {chain : Tree}
    (compiled : CompileTo sources trees) (joined : Tree.chain? trees = some chain) :
    ∃ ts, Token.Spells none (conjunction sources).toList (ts.map (·.kind)) ∧
      Postfix.ReadsTo 2 ts chain := by
  induction trees using List.reverseRecOn generalizing sources chain with
  | nil => cases joined
  | append_singleton trees tree ih =>
    obtain ⟨front, source, rfl, hfront, hsource⟩ := compiled.exists_eq_append_singleton
    obtain ⟨last, hspells, hcompiled⟩ := exists_spells_of_compile hsource
    have hreads := Postfix.readsTo_group hcompiled 0 0
    rw [Tree.chain?_append_singleton] at joined
    cases hchain : Tree.chain? trees with
    | none =>
      rw [hchain] at joined
      cases joined
      obtain rfl := Tree.chain?_eq_none_iff.1 hchain
      cases hfront
      refine ⟨_, ?_, hreads.of_le (by decide)⟩
      simpa [conjunction] using hspells.group none
    | some chain' =>
      rw [hchain] at joined
      obtain rfl : .node .and chain' tree = chain := Option.some.inj joined
      obtain ⟨ts, hspells', hreads'⟩ := ih hfront hchain
      have hne : front ≠ [] := by
        rintro rfl
        cases hfront
        cases hchain
      have hstops : ∀ cs, Stops (' ' :: cs) :=
        stops_cons (Text.isWord_of_isBlank Text.isBlank_space_lineFeed.1) (by decide)
      have hjoin := hspells'.append (hstops _)
        (Token.Spells.connective (k := .and) (by decide) (hspells.group _))
      refine ⟨_, ?_, hreads'.join .and 0 hreads⟩
      rw [toList_conjunction_append_singleton hne]
      simpa using hjoin

/-- What texts are combined to is what they are compiled to as one text, each of them in parentheses
and with `AND` between them. A single text may as well stand in parentheses. -/
theorem compile_conjunction :
    (∀ sources t, combine sources = .ok (some t) → compile (conjunction sources) = .ok t) ∧
      ∀ source t, compile source = .ok t → compile ("(" ++ source ++ ")") = .ok t := by
  have conjoined (sources : List String) (t : Tree) (trees : List Tree)
      (compiled : CompileTo sources trees) (joined : Tree.chain? trees = some t)
      (depth : t.depth ≤ Tree.maxDepth) : compile (conjunction sources) = .ok t := by
    obtain ⟨ts, hspells, hreads⟩ := exists_spells_conjunction compiled joined
    obtain ⟨tokens, scanned, same⟩ := Token.exists_scan_eq_ok hspells
    exact compile_eq_ok_of_kinds_eq scanned same ((hreads.of_le (by decide)).compiled depth)
  constructor
  · intro sources t combined
    obtain ⟨trees, compiled, joined⟩ := exists_chain?_of_combine combined
    exact conjoined sources t trees compiled joined (Tree.depth_le_of_combine combined)
  · intro source t compiled
    have hsingle : conjunction [source] = "(" ++ source ++ ")" := by
      rw [conjunction, List.map_singleton, String.intercalate_singleton]
    rw [← hsingle]
    exact conjoined [source] t [t] (.cons compiled .nil) rfl (Tree.depth_le_of_compile compiled)

/-- An `OR` and a quoted `AND (` stay inside their texts, and so does a connective that stands in
front of its operands. -/
theorem compile_conjunction_or_inside :
    compile (conjunction ["a='x' OR b='y AND ('", "AND c<'1' d>'2'"]) =
        .ok (.node .and
          (.node .or (.leaf ⟨"a", .eq, .text "x"⟩) (.leaf ⟨"b", .eq, .text "y AND ("⟩))
          (.node .and (.leaf ⟨"c", .lt, .text "1"⟩) (.leaf ⟨"d", .gt, .text "2"⟩))) ∧
      compile ("(" ++ "a='x' OR b='y AND ('" ++ ")") =
        .ok (.node .or (.leaf ⟨"a", .eq, .text "x"⟩) (.leaf ⟨"b", .eq, .text "y AND ("⟩)) := by
  have combined : combine ["a='x' OR b='y AND ('", "AND c<'1' d>'2'"] =
      .ok (some (.node .and
        (.node .or (.leaf ⟨"a", .eq, .text "x"⟩) (.leaf ⟨"b", .eq, .text "y AND ("⟩))
        (.node .and (.leaf ⟨"c", .lt, .text "1"⟩) (.leaf ⟨"d", .gt, .text "2"⟩)))) := by
    decide +kernel
  have compiled : compile "a='x' OR b='y AND ('" =
      .ok (.node .or (.leaf ⟨"a", .eq, .text "x"⟩) (.leaf ⟨"b", .eq, .text "y AND ("⟩)) := by
    decide +kernel
  exact ⟨compile_conjunction.1 _ _ combined, compile_conjunction.2 _ _ compiled⟩

end Rulebook
