import Mathlib.Logic.Relation
import Rulebook.Proofs.Grammar
import Rulebook.Proofs.Written

/-!
# Which texts are accepted

Arranging and building look at how many conditions a connective finds, not at where they stand: a
connective is accepted in front of its two conditions or behind them as well as between them. Of the
texts that are compiled, those whose tokens are derived from the grammar, empty groups aside, are
exactly those in which every connective stands between two operands
(`derived_iff_connectivesBetweenOperands`).

The proof counts. Where every connective stands between two operands and no group is empty, the
parentheses being balanced, the tokens have at least one condition more than they have connectives,
and one more for every place where two operands stand side by side (`Loose.count`). A compiled text
has exactly one condition more, so operands and connectives take turns.
-/

namespace Rulebook

open Grammar Relation

namespace Token.Kind

/-! ## Empty groups -/

/-- One empty group is taken out of a row of tokens. -/
inductive RemovesGroup : List Kind → List Kind → Prop
  | mk (before after : List Kind) :
      RemovesGroup (before ++ .openParen :: .closeParen :: after) (before ++ after)

/-- Empty groups are taken out of `ks`, one after the other, until `js` has none. -/
structure Clears (ks js : List Kind) : Prop where
  removes : ReflTransGen RemovesGroup ks js
  final : ∀ is, ¬ RemovesGroup js is

/-- Empty groups can be taken out until there are none, for each step leaves fewer tokens. -/
theorem exists_clears (ks : List Kind) : ∃ js, Clears ks js := by
  by_cases h : ∃ is, RemovesGroup ks is
  · obtain ⟨is, hstep⟩ := h
    have hlt : is.length < ks.length := by
      cases hstep
      simp only [List.length_append, List.length_cons]
      omega
    obtain ⟨js, hremoves, hfinal⟩ := exists_clears is
    exact ⟨js, hremoves.head hstep, hfinal⟩
  · exact ⟨ks, .refl, fun is hstep => h ⟨is, hstep⟩⟩
termination_by ks.length

/-- An empty group in front can be left out. -/
theorem Closes.of_group {n : Nat} {before after : List Kind}
    (h : Closes n (before ++ .openParen :: .closeParen :: after)) : Closes n (before ++ after) := by
  induction before generalizing n with
  | nil =>
    cases h with
    | openParen h =>
      cases h with
      | closeParen h => exact h
  | cons k before ih =>
    cases h with
    | condition h => exact .condition (ih h)
    | connective h => exact .connective (ih h)
    | openParen h => exact .openParen (ih h)
    | closeParen h => exact .closeParen (ih h)

/-- Taking out one empty group keeps the balance, the conditions and the connectives. -/
theorem RemovesGroup.keeps {ks js : List Kind} (h : RemovesGroup ks js) :
    (∀ n, Closes n ks → Closes n js) ∧ conditions js = conditions ks ∧
      connectives js = connectives ks := by
  cases h with
  | mk before after =>
    refine ⟨fun n => Closes.of_group, ?_, ?_⟩
    · rw [conditions, conditions, List.filterMap_append, List.filterMap_append]
      rfl
    · rw [connectives, connectives, List.filterMap_append, List.filterMap_append]
      rfl

/-- Taking out empty groups keeps the balance, the conditions and the connectives. -/
theorem keeps_of_removes {ks js : List Kind} (h : ReflTransGen RemovesGroup ks js) :
    (∀ n, Closes n ks → Closes n js) ∧ conditions js = conditions ks ∧
      connectives js = connectives ks := by
  induction h with
  | refl => exact ⟨fun _ => id, rfl, rfl⟩
  | tail _ hstep ih =>
    obtain ⟨ihcloses, ihconditions, ihconnectives⟩ := ih
    obtain ⟨hcloses, hconditions, hconnectives⟩ := hstep.keeps
    exact ⟨fun n hn => hcloses n (ihcloses n hn), hconditions.trans ihconditions,
      hconnectives.trans ihconnectives⟩

/-- An empty group is taken out only of tokens that open a parenthesis. -/
theorem RemovesGroup.openParen_mem {ks js : List Kind} (h : RemovesGroup ks js) :
    .openParen ∈ ks := by
  cases h with
  | mk before after => exact List.mem_append_right before List.mem_cons_self

/-! ## Operands and connectives -/

/-- Whether an operand ends with a token. -/
def endsOperand : Kind → Bool
  | .condition _ => true
  | .closeParen => true
  | _ => false

/-- Whether an operand starts with a token. -/
def startsOperand : Kind → Bool
  | .condition _ => true
  | .openParen => true
  | _ => false

/-- Every connective stands between two operands: one ends right in front of it, and one starts
right behind it. -/
def ConnectivesBetweenOperands (ks : List Kind) : Prop :=
  ∀ before k after, ks = before ++ .connective k :: after →
    before.getLast?.any endsOperand = true ∧ after.head?.any startsOperand = true

/-- Operands may stand side by side, but a connective follows an operand and is followed by one, and
a group that is opened is not empty. An operand has to come first if it is `due`. -/
inductive Loose : (due : Bool) → List Kind → Prop
  | nil : Loose false []
  | condition {due : Bool} {c : Condition} {ks : List Kind} :
      Loose false ks → Loose due (.condition c :: ks)
  | openParen {due : Bool} {ks : List Kind} : Loose true ks → Loose due (.openParen :: ks)
  | closeParen {ks : List Kind} : Loose false ks → Loose false (.closeParen :: ks)
  | connective {k : Connective} {ks : List Kind} :
      Loose true ks → Loose false (.connective k :: ks)

/-- Where connectives stand between operands, no group is empty and the parentheses close, what
follows some tokens is loose; an operand is due unless one ends with these tokens. -/
theorem loose_of_connectivesBetweenOperands {before ks : List Kind} {n : Nat}
    (between : ConnectivesBetweenOperands (before ++ ks))
    (final : ∀ is, ¬ RemovesGroup (before ++ ks) is) (closes : Closes n ks)
    (nested : before.getLast? = some .openParen → 0 < n)
    (start : before = [] → ks ≠ [] ∧ n = 0) :
    Loose (!before.getLast?.any endsOperand) ks := by
  induction ks generalizing before n with
  | nil =>
    cases closes
    cases hlast : before.getLast? with
    | none => exact absurd rfl (start (List.getLast?_eq_none_iff.1 hlast)).1
    | some k =>
      obtain ⟨front, rfl⟩ := List.getLast?_eq_some_iff.1 hlast
      cases k with
      | condition c => exact .nil
      | closeParen => exact .nil
      | openParen => exact absurd (nested hlast) (Nat.lt_irrefl 0)
      | connective k =>
        -- A connective at the end has no operand behind it.
        have hstarts := (between front k [] (by simp)).2
        cases hstarts
  | cons k ks ih =>
    rw [List.append_cons] at between final
    have hlast : (before ++ [k]).getLast? = some k := List.getLast?_concat
    cases closes with
    | condition closes =>
      have hrest := ih between final closes (by simp) (by simp)
      rw [hlast] at hrest
      exact .condition hrest
    | openParen closes =>
      have hrest := ih between final closes (fun _ => Nat.succ_pos n) (by simp)
      rw [hlast] at hrest
      exact .openParen hrest
    | @connective _ k _ closes =>
      have hends := (between before k ks (by simp)).1
      have hrest := ih between final closes (by simp) (by simp)
      rw [hlast] at hrest
      rw [hends]
      exact .connective hrest
    | @closeParen n _ closes =>
      have hrest := ih between final closes (by simp) (by simp)
      rw [hlast] at hrest
      -- Nothing but the end of an operand may stand in front of the parenthesis.
      cases hfront : before.getLast? with
      | none => exact absurd (start (List.getLast?_eq_none_iff.1 hfront)).2 (Nat.succ_ne_zero n)
      | some j =>
        obtain ⟨front, rfl⟩ := List.getLast?_eq_some_iff.1 hfront
        cases j with
        | condition c => exact .closeParen hrest
        | closeParen => exact .closeParen hrest
        | openParen =>
          refine absurd (RemovesGroup.mk front ks) ?_
          simpa using final (front ++ ks)
        | connective j =>
          have hstarts := (between front j (.closeParen :: ks) (by simp)).2
          cases hstarts

/-- Loose tokens have as many conditions as connectives, and one more if an operand is due; if they
have no more than that, operands and connectives take turns. -/
theorem Loose.count {due : Bool} {ks : List Kind} (h : Loose due ks) {n : Nat}
    (closes : Closes n ks) (written : ∀ k ∈ connectives ks, k.Written) :
    (connectives ks).length + due.toNat ≤ (conditions ks).length ∧
      ((conditions ks).length = (connectives ks).length + due.toNat → Alternates due n ks) := by
  induction h generalizing n with
  | nil =>
    cases closes
    exact ⟨Nat.le_refl _, fun _ => .nil⟩
  | @condition due c ks _ ih =>
    cases closes with
    | condition closes =>
      obtain ⟨hle, hturns⟩ := ih closes written
      have hconditions :
          (conditions (.condition c :: ks)).length = (conditions ks).length + 1 := rfl
      have hconnectives : connectives (.condition c :: ks) = connectives ks := rfl
      rw [hconditions, hconnectives]
      have hdue := due.toNat_le
      -- Where no operand is due, one condition more than needed has come.
      refine ⟨by simp only [Bool.toNat_false] at hle; omega, fun heq => ?_⟩
      cases due with
      | false =>
        simp only [Bool.toNat_false] at hle heq
        omega
      | true => exact .condition (hturns (Nat.succ.inj heq))
  | @openParen due ks _ ih =>
    cases closes with
    | openParen closes =>
      obtain ⟨hle, hturns⟩ := ih closes written
      have hconditions : conditions (.openParen :: ks) = conditions ks := rfl
      have hconnectives : connectives (.openParen :: ks) = connectives ks := rfl
      rw [hconditions, hconnectives]
      have hdue := due.toNat_le
      refine ⟨by simp only [Bool.toNat_true] at hle; omega, fun heq => ?_⟩
      cases due with
      | false =>
        simp only [Bool.toNat_true, Bool.toNat_false] at hle heq
        omega
      | true => exact .openParen (hturns heq)
  | closeParen _ ih =>
    cases closes with
    | closeParen closes =>
      obtain ⟨hle, hturns⟩ := ih closes written
      exact ⟨hle, fun heq => .closeParen (hturns heq)⟩
  | @connective k ks _ ih =>
    cases closes with
    | connective closes =>
      obtain ⟨hle, hturns⟩ := ih closes fun j hj => written j (List.mem_cons_of_mem k hj)
      refine ⟨hle, fun heq => ?_⟩
      rcases written k List.mem_cons_self with rfl | rfl
      · exact .and (hturns heq)
      · exact .or (hturns heq)

end Token.Kind

open Token.Kind

/-- Where an operand is due, one starts. -/
theorem Grammar.Alternates.head {n : Nat} {ks : List Token.Kind} (h : Alternates true n ks) :
    ks.head?.any startsOperand = true := by
  cases h with
  | condition _ => rfl
  | openParen _ => rfl

/-- Where operands and connectives take turns, a connective stands between two operands, of which
the first may be in front of the tokens if none is due. -/
theorem Grammar.Alternates.between {due : Bool} {n : Nat} {before after : List Token.Kind}
    {k : Connective} (h : Alternates due n (before ++ .connective k :: after)) :
    (before.getLast?.any endsOperand = true ∨ before = [] ∧ due = false) ∧
      after.head?.any startsOperand = true := by
  induction before generalizing due n with
  | nil =>
    cases h with
    | and h => exact ⟨.inr ⟨rfl, rfl⟩, h.head⟩
    | or h => exact ⟨.inr ⟨rfl, rfl⟩, h.head⟩
  | cons j before ih =>
    -- What ends right in front of the connective is `j` only if there is nothing between them.
    have last {due' : Bool} {n' : Nat} (hj : due' = false → endsOperand j = true)
        (h : Alternates due' n' (before ++ .connective k :: after)) :
        ((j :: before).getLast?.any endsOperand = true ∨ j :: before = [] ∧ due = false) ∧
          after.head?.any startsOperand = true := by
      obtain ⟨hends | ⟨rfl, hdue⟩, hstarts⟩ := ih h
      · refine ⟨.inl ?_, hstarts⟩
        cases before with
        | nil => cases hends
        | cons i before => exact hends
      · exact ⟨.inl (hj hdue), hstarts⟩
    cases h with
    | condition h => exact last (fun _ => rfl) h
    | openParen h => exact last (fun hdue => by cases hdue) h
    | closeParen h => exact last (fun _ => rfl) h
    | and h => exact last (fun hdue => by cases hdue) h
    | or h => exact last (fun hdue => by cases hdue) h

/-- An accepted text is derived from the grammar, empty groups aside, if and only if each of its
connectives stands between two operands. -/
theorem derived_iff_connectivesBetweenOperands {source : String} {tokens : List Token} {tree : Tree}
    (scanned : Token.scan source = .ok tokens) (compiled : compile source = .ok tree) :
    (∃ ks, Clears (tokens.map (·.kind)) ks) ∧
      ∀ ks, Clears (tokens.map (·.kind)) ks →
        ((∃ e : Expression, e.kinds = ks) ↔ ConnectivesBetweenOperands ks) := by
  refine ⟨exists_clears _, fun ks clears => ?_⟩
  rw [exists_kinds_eq_iff]
  constructor
  · rintro h before k after rfl
    obtain ⟨hends | ⟨-, hdue⟩, hstarts⟩ := h.between
    · exact ⟨hends, hstarts⟩
    · cases hdue
  · intro between
    obtain ⟨hcloses, hconditions, hconnectives⟩ := keeps_of_removes clears.removes
    have closes := hcloses 0 (closes_of_compile scanned compiled)
    -- A tree has one leaf more than it has nodes, and both are those of the text.
    have hperm := perm_connectives_of_compile scanned compiled
    have hcount : (conditions ks).length = (connectives ks).length + 1 := by
      rw [hconditions, hconnectives, ← leaves_of_compile scanned compiled, ← hperm.length_eq,
        Tree.length_leaves]
    have hwritten : ∀ k ∈ connectives ks, k.Written := by
      intro k hk
      rw [hconnectives, ← hperm.mem_iff] at hk
      exact (Tree.written_of_compile compiled).connectives k hk
    have hne : ks ≠ [] := by
      rintro rfl
      cases hcount
    have hloose : Loose true ks :=
      @loose_of_connectivesBetweenOperands [] ks 0 between clears.final closes (by simp)
        fun _ => ⟨hne, rfl⟩
    exact (hloose.count closes hwritten).2 hcount

/-- A connective behind its two conditions is accepted, and not derived from the grammar. -/
theorem compile_connective_behind_operands :
    compile "a='1' b='2' AND" =
        .ok (.node .and (.leaf ⟨"a", .eq, .text "1"⟩) (.leaf ⟨"b", .eq, .text "2"⟩)) ∧
      ¬ ∃ e : Expression, e.kinds =
        [.condition ⟨"a", .eq, .text "1"⟩, .condition ⟨"b", .eq, .text "2"⟩, .connective .and] := by
  have scanned : Token.scan "a='1' b='2' AND" =
      .ok [⟨.condition ⟨"a", .eq, .text "1"⟩, 0⟩, ⟨.condition ⟨"b", .eq, .text "2"⟩, 6⟩,
        ⟨.connective .and, 12⟩] := by decide +kernel
  have compiled : compile "a='1' b='2' AND" =
      .ok (.node .and (.leaf ⟨"a", .eq, .text "1"⟩) (.leaf ⟨"b", .eq, .text "2"⟩)) := by
    decide +kernel
  refine ⟨compiled, fun derived => ?_⟩
  obtain ⟨-, hiff⟩ := derived_iff_connectivesBetweenOperands scanned compiled
  have between := (hiff _ ⟨.refl, fun is h => by simpa using h.openParen_mem⟩).1 derived
  have hstarts := (between [_, _] .and [] rfl).2
  cases hstarts

end Rulebook
