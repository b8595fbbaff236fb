import Mathlib.Data.List.Forall2
import Mathlib.Data.List.Induction
import Rulebook.Proofs.Depth
import Rulebook.Proofs.Evaluation

/-!
# Texts joined by `AND`

`combine` reads its texts from first to last and stops at the first one that cannot be joined to
those in front of it (`Refused`): a text that is no rule, or one whose tree would make the chain too
deep. Where none is refused the result is the chain of all their trees, nested to the left
(`Tree.chain?`), and it matches a record if and only if every single text does (`combine_outcome`).

The proof goes through the texts from left to right: the depth that is kept beside the chain is the
depth of the chain, so what the next text does depends on the chain and on that text alone
(`combineNext_graded`), and no later text changes which one is refused first.
-/

namespace Rulebook

namespace Tree

/-- Trees joined by `AND`, nested to the left, if there are any. -/
def chain? : List Tree → Option Tree
  | [] => none
  | t :: ts => some (ts.foldl (.node .and) t)

/-- One more tree is joined on the right. -/
theorem chain?_append_singleton (ts : List Tree) (t : Tree) :
    chain? (ts ++ [t]) = some (match chain? ts with
      | none => t
      | some chain => .node .and chain t) := by
  cases ts with
  | nil => rfl
  | cons u ts =>
    rw [List.cons_append, chain?, chain?, List.foldl_append]
    rfl

/-- There is no chain only of no trees. -/
theorem chain?_eq_none_iff {ts : List Tree} : chain? ts = none ↔ ts = [] := by
  cases ts with
  | nil => exact ⟨fun _ => rfl, fun _ => rfl⟩
  | cons t ts => exact ⟨nofun, nofun⟩

/-- A chain holds for a record if and only if each of its trees does. -/
theorem holds_of_chain? {ts : List Tree} {chain : Tree} (h : chain? ts = some chain)
    (record : Record) : chain.holds record = true ↔ ∀ t ∈ ts, t.holds record = true := by
  induction ts using List.reverseRecOn generalizing chain with
  | nil => cases h
  | append_singleton ts t ih =>
    rw [chain?_append_singleton] at h
    cases hchain : chain? ts with
    | none =>
      rw [hchain] at h
      cases h
      cases ts with
      | nil => simp
      | cons u ts => cases hchain
    | some front =>
      rw [hchain] at h
      cases h
      rw [holds, Connective.join, Bool.and_eq_true, ih hchain, List.forall_mem_append,
        List.forall_mem_singleton]

/-- A tree with its depth. -/
def graded (t : Tree) : Graded := ⟨t, t.depth⟩

end Tree

open Rulebook.Tree (maxDepth)

/-- The texts are compiled to the trees, each to its own. -/
def CompileTo (sources : List String) (trees : List Tree) : Prop :=
  List.Forall₂ (fun source tree => compile source = .ok tree) sources trees

/-- The text with this index cannot be joined to those in front of it: it is no rule, or its tree
would make the chain of theirs too deep. -/
inductive Refused (sources : List String) (index : Nat) : SyntaxError → Prop
  | notARule {source : String} {cause : SyntaxError} (there : sources[index]? = some source)
      (fails : compile source = .error cause) : Refused sources index cause
  | tooDeep {source : String} {trees : List Tree} {chain tree : Tree}
      (there : sources[index]? = some source) (compiled : compile source = .ok tree)
      (positive : 0 < index) (front : CompileTo (sources.take index) trees)
      (joined : Tree.chain? trees = some chain) (deep : 100 < 1 + max chain.depth tree.depth) :
      Refused sources index (.tooDeep 100)

/-- Texts are compiled to no other trees. -/
theorem CompileTo.unique {sources : List String} {trees trees' : List Tree}
    (h : CompileTo sources trees) (h' : CompileTo sources trees') : trees = trees' := by
  induction h generalizing trees' with
  | nil =>
    cases h'
    rfl
  | cons head _ ih =>
    cases h' with
    | cons head' tail' =>
      cases head.symm.trans head'
      rw [ih tail']

/-- What holds of all trees is what holds of the tree of every text. -/
theorem CompileTo.forall_iff {sources : List String} {trees : List Tree} {P : Tree → Prop}
    (h : CompileTo sources trees) :
    (∀ t ∈ trees, P t) ↔ ∀ source ∈ sources, ∃ t, compile source = .ok t ∧ P t := by
  induction h with
  | nil => simp
  | @cons source tree sources trees head _ ih =>
    rw [List.forall_mem_cons, List.forall_mem_cons, ih, head]
    simp

/-- A text is refused for one cause only. -/
theorem Refused.unique {sources : List String} {index : Nat} {cause cause' : SyntaxError}
    (h : Refused sources index cause) (h' : Refused sources index cause') : cause = cause' := by
  -- A text is compiled or not, so both causes are of the same kind.
  cases h with
  | notARule there fails =>
    cases h' with
    | notARule there' fails' =>
      cases there.symm.trans there'
      cases fails.symm.trans fails'
      rfl
    | tooDeep there' compiled' =>
      cases there.symm.trans there'
      cases fails.symm.trans compiled'
  | tooDeep there compiled =>
    cases h' with
    | notARule there' fails' =>
      cases there.symm.trans there'
      cases compiled.symm.trans fails'
    | tooDeep => rfl

/-- Whether a text is refused depends on the texts up to it. -/
theorem refused_append_iff {front later : List String} {index : Nat} {cause : SyntaxError}
    (h : index < front.length) :
    Refused (front ++ later) index cause ↔ Refused front index cause := by
  have hget : (front ++ later)[index]? = front[index]? := List.getElem?_append_left h
  have htake : (front ++ later).take index = front.take index :=
    List.take_append_of_le_length (Nat.le_of_lt h)
  constructor
  · rintro (⟨there, fails⟩ | ⟨there, compiled, positive, compiles, joined, deep⟩)
    · exact .notARule (hget ▸ there) fails
    · exact .tooDeep (hget ▸ there) compiled positive (htake ▸ compiles) joined deep
  · rintro (⟨there, fails⟩ | ⟨there, compiled, positive, compiles, joined, deep⟩)
    · exact .notARule (hget ▸ there) fails
    · exact .tooDeep (hget ▸ there) compiled positive (htake ▸ compiles) joined deep

/-- No text behind the last one is refused. -/
theorem Refused.lt_length {sources : List String} {index : Nat} {cause : SyntaxError}
    (h : Refused sources index cause) : index < sources.length := by
  cases h with
  | notARule there => exact (List.getElem?_eq_some_iff.1 there).1
  | tooDeep there => exact (List.getElem?_eq_some_iff.1 there).1

/-- No text is refused if one is joined to texts of which none is, unless the chain gets too
deep. -/
theorem not_refused_append_singleton {front : List String} {source : String} {trees : List Tree}
    {tree : Tree} (compiled : CompileTo front trees)
    (free : ∀ index cause, ¬ Refused front index cause) (htree : compile source = .ok tree)
    (shallow : ∀ chain ∈ Tree.chain? trees, 1 + max chain.depth tree.depth ≤ 100)
    (index : Nat) (cause : SyntaxError) : ¬ Refused (front ++ [source]) index cause := by
  have there : (front ++ [source])[front.length]? = some source := List.getElem?_concat_length
  intro h
  rcases Nat.lt_or_ge index front.length with hlt | hge
  · exact free index cause ((refused_append_iff hlt).1 h)
  · have hlength := h.lt_length
    rw [List.length_append, List.length_singleton] at hlength
    obtain rfl : index = front.length := by omega
    cases h with
    | notARule there' fails =>
      cases there.symm.trans there'
      cases htree.symm.trans fails
    | tooDeep there' htree' _ compiled' joined deep =>
      cases there.symm.trans there'
      cases htree.symm.trans htree'
      rw [List.take_left] at compiled'
      rw [← compiled.unique compiled'] at joined
      exact absurd (shallow _ joined) (Nat.not_le.2 deep)

/-- What may come of joining some texts. -/
inductive Combines (sources : List String) : Except RuleError (Option Tree) → Prop
  | joined {trees : List Tree} (compiled : CompileTo sources trees)
      (free : ∀ index cause, ¬ Refused sources index cause) :
      Combines sources (.ok (Tree.chain? trees))
  | refused {index : Nat} {cause : SyntaxError} (here : Refused sources index cause)
      (first : ∀ earlier < index, ∀ cause, ¬ Refused sources earlier cause) :
      Combines sources (.error (.combineFailed index cause))

/-- A text that is refused behind texts of which none is, is the first one. -/
theorem Combines.refused_last {front : List String} {source : String} {cause : SyntaxError}
    (free : ∀ index cause, ¬ Refused front index cause)
    (h : Refused (front ++ [source]) front.length cause) :
    Combines (front ++ [source]) (.error (.combineFailed front.length cause)) :=
  .refused h fun earlier hlt cause h => free earlier cause ((refused_append_iff hlt).1 h)

namespace Tree

/-- The next text is joined to the chain of the trees so far, unless that makes it too deep. -/
theorem combineNext_graded (front : Option Tree) (source : String) (index : Nat) :
    combineNext (front.map graded) source index =
      match compile source with
      | .error cause => .error (.combineFailed index cause)
      | .ok tree =>
        match front with
        | none => .ok (some tree.graded)
        | some chain =>
          if (node .and chain tree).depth ≤ maxDepth then .ok (some (node .and chain tree).graded)
          else .error (.combineFailed index (.tooDeep maxDepth)) := by
  unfold combineNext
  cases compile source with
  | error cause => rfl
  | ok tree =>
    cases front with
    | none => rfl
    | some chain =>
      simp only [Option.map_some, graded, Graded.join_eq]
      by_cases hdepth : (node .and chain tree).depth ≤ maxDepth
      · rw [if_pos hdepth, if_pos hdepth]
      · rw [if_neg hdepth, if_neg hdepth]

/-- The last text is joined to what comes of those in front of it. -/
theorem combineFrom_append_singleton (joined : Option Graded) (index : Nat) (front : List String)
    (source : String) :
    combineFrom joined index (front ++ [source]) =
      combineFrom joined index front >>= fun joined =>
        combineNext joined source (index + front.length) := by
  induction front generalizing joined index with
  | nil =>
    have hnext : combineFrom joined index [source] = combineNext joined source index >>= pure := rfl
    rw [List.nil_append, hnext, bind_pure]
    rfl
  | cons first front ih =>
    have hindex : index + (first :: front).length = index + 1 + front.length := by
      rw [List.length_cons]
      omega
    rw [List.cons_append, combineFrom, combineFrom, hindex]
    cases combineNext joined first index with
    | error e => rfl
    | ok joined => exact ih joined (index + 1)

/-- Every list of texts is joined to the chain of all their trees, kept with its depth, or stops at
the first text that is refused. -/
theorem exists_combines (sources : List String) :
    ∃ outcome, Combines sources outcome ∧
      combineFrom none 0 sources = outcome.map (·.map graded) := by
  induction sources using List.reverseRecOn with
  | nil =>
    refine ⟨.ok none, .joined .nil fun index cause h => ?_, rfl⟩
    exact absurd h.lt_length (Nat.not_lt_zero index)
  | append_singleton front source ih =>
    obtain ⟨outcome, hfront, heq⟩ := ih
    rw [combineFrom_append_singleton, heq, Nat.zero_add]
    cases hfront with
    | refused here first =>
      -- A later text does not matter any more.
      refine ⟨_, .refused ((refused_append_iff here.lt_length).2 here) ?_, rfl⟩
      intro earlier hlt cause h
      exact first earlier hlt cause
        ((refused_append_iff (Nat.lt_trans hlt here.lt_length)).1 h)
    | @joined trees compiled free =>
      have there : (front ++ [source])[front.length]? = some source := List.getElem?_concat_length
      change ∃ outcome, _ ∧ combineNext ((chain? trees).map graded) source front.length = _
      rw [combineNext_graded]
      cases htree : compile source with
      | error cause => exact ⟨_, .refused_last free (.notARule there htree), rfl⟩
      | ok tree =>
        have hcompile : CompileTo (front ++ [source]) (trees ++ [tree]) :=
          List.rel_append compiled (.cons htree .nil)
        have hfree := not_refused_append_singleton compiled free htree
        have hchain := chain?_append_singleton trees tree
        cases hjoined : chain? trees with
        | none =>
          rw [hjoined] at hfree hchain
          exact ⟨_, .joined hcompile (hfree (by simp)), by rw [hchain]; rfl⟩
        | some chain =>
          rw [hjoined] at hfree hchain
          dsimp only
          by_cases hdepth : (node .and chain tree).depth ≤ maxDepth
          · rw [if_pos hdepth]
            refine ⟨_, .joined hcompile (hfree ?_), by rw [hchain]; rfl⟩
            rintro _ ⟨⟩
            exact hdepth
          · rw [if_neg hdepth]
            have positive : 0 < front.length := by
              cases compiled with
              | nil => cases hjoined
              | cons _ _ => exact Nat.succ_pos _
            have hfront : CompileTo ((front ++ [source]).take front.length) trees := by
              rw [List.take_left]
              exact compiled
            exact ⟨_, .refused_last free (.tooDeep there htree positive hfront hjoined
              (Nat.lt_of_not_le hdepth)), rfl⟩

end Tree

/-- Joining some texts comes to what it may come to. -/
theorem combines_combine (sources : List String) : Combines sources (combine sources) := by
  obtain ⟨outcome, h, heq⟩ := Tree.exists_combines sources
  have houtcome : combine sources = outcome := by
    rw [combine, heq]
    cases outcome with
    | error e => rfl
    | ok tree => cases tree <;> rfl
  rw [houtcome]
  exact h

/-- What texts are combined to is the chain of their trees. -/
theorem exists_chain?_of_combine {sources : List String} {t : Tree}
    (h : combine sources = .ok (some t)) :
    ∃ trees, CompileTo sources trees ∧ Tree.chain? trees = some t := by
  have hcombines := combines_combine sources
  rw [h] at hcombines
  generalize houtcome : (.ok (some t) : Except RuleError (Option Tree)) = outcome at hcombines
  cases hcombines with
  | joined compiled _ => exact ⟨_, compiled, (Except.ok.inj houtcome).symm⟩
  | refused _ _ => cases houtcome

/-- Nothing is joined only for no text; joining fails only at the first text that is refused, and
for its cause; otherwise all trees are joined in their order, and the result matches a record if and
only if every single text does. -/
theorem combine_outcome (sources : List String) :
    (combine sources = .ok none ↔ sources = []) ∧
    (∀ e, combine sources = .error e ↔
      ∃ index cause, e = .combineFailed index cause ∧ Refused sources index cause ∧
        ∀ earlier < index, ∀ cause, ¬ Refused sources earlier cause) ∧
    (∀ t, combine sources = .ok (some t) ↔
      (∀ index cause, ¬ Refused sources index cause) ∧
        ∃ trees, CompileTo sources trees ∧ Tree.chain? trees = some t) ∧
    ∀ t, combine sources = .ok (some t) → ∀ traced record,
      (t.execute traced record).isMatch = true ↔
        ∀ source ∈ sources, ∃ u, compile source = .ok u ∧
          (u.execute traced record).isMatch = true := by
  have h := combines_combine sources
  generalize combine sources = outcome at h ⊢
  cases h with
  | @refused index cause here first =>
    refine ⟨⟨nofun, ?_⟩, ?_, ?_, nofun⟩
    · rintro rfl
      exact absurd here.lt_length (Nat.not_lt_zero index)
    · intro e
      constructor
      · rintro ⟨⟩
        exact ⟨index, cause, rfl, here, first⟩
      · rintro ⟨index', cause', rfl, here', first'⟩
        -- Of two first texts neither is in front of the other.
        rcases Nat.lt_trichotomy index index' with hlt | rfl | hgt
        · exact absurd here (first' index hlt cause)
        · rw [here.unique here']
        · exact absurd here' (first index' hgt cause')
    · exact fun t => ⟨nofun, fun h => absurd here (h.1 index cause)⟩
  | @joined trees compiled free =>
    refine ⟨?_, ?_, ?_, ?_⟩
    · rw [Except.ok.injEq, Tree.chain?_eq_none_iff]
      constructor
      · rintro rfl
        exact List.forall₂_nil_right_iff.1 compiled
      · rintro rfl
        exact List.forall₂_nil_left_iff.1 compiled
    · exact fun e => ⟨nofun, fun ⟨index, cause, _, here, _⟩ => absurd here (free index cause)⟩
    · intro t
      constructor
      · exact fun hchain => ⟨free, trees, compiled, Except.ok.inj hchain⟩
      · rintro ⟨-, trees', compiled', hchain⟩
        rw [compiled.unique compiled', hchain]
    · intro t hchain traced record
      rw [Except.ok.injEq] at hchain
      rw [Tree.isMatch_execute, Tree.holds_of_chain? hchain, compiled.forall_iff]
      simp only [Tree.isMatch_execute]

/-- An `OR` inside a text stays inside, and a third text with an open parenthesis is refused. -/
theorem combine_outcome_or_inside :
    (∀ record, (Tree.execute true record (.node .and (.leaf ⟨"a", .lt, .text "1"⟩)
          (.node .or (.leaf ⟨"b", .eq, .text "2"⟩) (.leaf ⟨"c", .eq, .text "3"⟩)))).isMatch = true ↔
        ∀ source ∈ ["a<'1'", "b='2' OR c='3'"], ∃ u, compile source = .ok u ∧
          (u.execute true record).isMatch = true) ∧
      Refused ["a<'1'", "b='2' OR c='3'", "(d='4'"] 2 (.unbalancedParenthesis 0) := by
  have joined : combine ["a<'1'", "b='2' OR c='3'"] =
      .ok (some (.node .and (.leaf ⟨"a", .lt, .text "1"⟩)
        (.node .or (.leaf ⟨"b", .eq, .text "2"⟩) (.leaf ⟨"c", .eq, .text "3"⟩)))) := by
    decide +kernel
  have failed : combine ["a<'1'", "b='2' OR c='3'", "(d='4'"] =
      .error (.combineFailed 2 (.unbalancedParenthesis 0)) := by decide +kernel
  refine ⟨(combine_outcome _).2.2.2 _ joined true, ?_⟩
  obtain ⟨index, cause, heq, here, -⟩ := ((combine_outcome _).2.1 _).1 failed
  cases heq
  exact here

end Rulebook
