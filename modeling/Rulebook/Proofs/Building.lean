import Rulebook.Proofs.Conjunction

/-!
# Building step by step

A tree is built from items in postfix order by a stack (`Building`), and several texts are joined
one after the other (`Joining`). Every tree that is made is on the stack, or is what the texts are
joined to, right behind the step that makes it. So the depth guard is a matter of the states that
are reached: in all of them every tree is kept with its depth, which is `maxDepth` at most, also
where a later step fails.

The guard refuses nothing else: building stops at a tree that is too deep if and only if the next
join of two trees on the stack would have exactly one level too many (`depth_kept_while_made`).
-/

namespace Rulebook.Tree

/-! ## The states -/

/-- The stack of trees behind some of the items, and the items that are left. -/
inductive Building (items : List Postfix) : List Graded → List Postfix → Prop
  | start : Building items [] items
  | step {stack stack' : List Graded} {item : Postfix} {rest : List Postfix}
      (before : Building items stack (item :: rest)) (pushed : pushItem stack item = .ok stack') :
      Building items stack' rest

/-- What the first texts are joined to, the number of these texts, and the texts that are left. -/
inductive Joining (sources : List String) : Option Graded → Nat → List String → Prop
  | start : Joining sources none 0 sources
  | step {joined joined' : Option Graded} {index : Nat} {source : String} {rest : List String}
      (before : Joining sources joined index (source :: rest))
      (next : combineNext joined source index = .ok joined') :
      Joining sources joined' (index + 1) rest

namespace Building

variable {items rest : List Postfix} {stack : List Graded}

/-- The states are those in which the items in front have been applied. -/
theorem iff_foldlM : Building items stack rest ↔
    ∃ done, items = done ++ rest ∧ done.foldlM pushItem [] = .ok stack := by
  constructor
  · intro h
    induction h with
    | start => exact ⟨[], rfl, rfl⟩
    | @step _ stack' item rest _ pushed ih =>
      obtain ⟨done, hitems, hdone⟩ := ih
      refine ⟨done ++ [item], by simp [hitems], ?_⟩
      have hlast : [item].foldlM pushItem _ = .ok stack' := bind_eq_ok.2 ⟨stack', pushed, rfl⟩
      rw [List.foldlM_append, hdone]
      exact hlast
  · rintro ⟨done, rfl, hdone⟩
    induction done using List.reverseRecOn generalizing stack rest with
    | nil =>
      cases hdone
      exact .start
    | append_singleton done item ih =>
      rw [List.foldlM_append] at hdone
      obtain ⟨middle, hfront, hlast⟩ := bind_eq_ok.1 hdone
      obtain ⟨_, pushed, ⟨⟩⟩ := bind_eq_ok.1 hlast
      rw [List.append_assoc]
      exact (ih hfront).step pushed

/-- What is built is what the items that are left make of the stack. -/
theorem ofPostfix_eq (h : Building items stack rest) :
    ofPostfix items = rest.foldlM pushItem stack >>= only := by
  obtain ⟨done, rfl, hdone⟩ := iff_foldlM.1 h
  rw [ofPostfix, List.foldlM_append, hdone]
  rfl

/-- Every tree on the stack is kept with its depth, which is not too great. -/
theorem isTrue (h : Building items stack rest) : ∀ g ∈ stack, g.IsTrue := by
  induction h with
  | start => simp
  | step _ pushed ih => exact isTrue_of_pushItem ih pushed

end Building

namespace Joining

variable {sources rest : List String} {joined : Option Graded} {index : Nat}

/-- The states are those in which the texts in front have been joined. -/
theorem iff_combineFrom : Joining sources joined index rest ↔
    ∃ done, sources = done ++ rest ∧ done.length = index ∧
      combineFrom none 0 done = .ok joined := by
  constructor
  · intro h
    induction h with
    | start => exact ⟨[], rfl, rfl, rfl⟩
    | @step _ _ _ source rest _ next ih =>
      obtain ⟨done, hsources, rfl, hdone⟩ := ih
      refine ⟨done ++ [source], by simp [hsources], by simp, ?_⟩
      rw [combineFrom_append_singleton, hdone, Nat.zero_add]
      exact next
  · rintro ⟨done, rfl, rfl, hdone⟩
    induction done using List.reverseRecOn generalizing joined rest with
    | nil =>
      cases hdone
      exact .start
    | append_singleton done source ih =>
      rw [combineFrom_append_singleton, Nat.zero_add] at hdone
      obtain ⟨middle, hfront, next⟩ := bind_eq_ok.1 hdone
      rw [List.append_assoc, List.length_append]
      exact (ih hfront).step next

/-- What the texts are joined to is kept with its depth, which is not too great. -/
theorem isTrue (h : Joining sources joined index rest) : ∀ g ∈ joined, g.IsTrue := by
  induction h with
  | start => simp
  | step _ next ih =>
    exact forall_mem_combineNext (P := Graded.IsTrue) (fun h => ⟨rfl, depth_le_of_compile h⟩)
      (fun hleft hright h => hleft.join hright h) ih next

end Joining

/-! ## Where the guard stops -/

/-- Two true trees are not joined if and only if the join would have one level too many. -/
theorem Graded.IsTrue.join_eq_error_iff {k : Connective} {left right : Graded} {e : SyntaxError}
    (hleft : left.IsTrue) (hright : right.IsTrue) :
    Graded.join k left right = .error e ↔
      e = .tooDeep maxDepth ∧ (node k left.tree right.tree).depth = maxDepth + 1 := by
  have hdepth : (node k left.tree right.tree).depth =
      1 + max left.tree.depth right.tree.depth := rfl
  have hl := hleft.depth_le
  have hr := hright.depth_le
  have hjoin := join_eq k left.tree right.tree
  rw [← hleft.eq_mk, ← hright.eq_mk] at hjoin
  rw [hjoin]
  split
  · next hle =>
    constructor
    · nofun
    · rintro ⟨-, heq⟩
      omega
  · next hgt =>
    constructor
    · rintro ⟨⟩
      refine ⟨rfl, ?_⟩
      omega
    · rintro ⟨rfl, -⟩
      rfl

/-- An item is refused for its depth only as a join of the two trees on top. -/
theorem pushItem_eq_tooDeep_iff {stack : List Graded} {item : Postfix} {limit : Nat} :
    pushItem stack item = .error (.tooDeep limit) ↔
      ∃ k position right left below, item = .connective k position ∧
        stack = right :: left :: below ∧ left.join k right = .error (.tooDeep limit) := by
  constructor
  · intro h
    cases item with
    | operand c => cases h
    | connective k position =>
      match stack, h with
      | [], h => cases h
      | [_], h => cases h
      | right :: left :: below, h =>
        exact ⟨k, position, right, left, below, rfl, rfl, map_eq_error.1 h⟩
  · rintro ⟨k, position, right, left, below, rfl, rfl, h⟩
    exact map_eq_error.2 h

/-- The end of the items is never a tree that is too deep. -/
theorem only_ne_tooDeep (stack : List Graded) (limit : Nat) :
    only stack ≠ .error (.tooDeep limit) := by
  match stack with
  | [] => exact nofun
  | [_] => exact nofun
  | _ :: _ :: _ => exact nofun

/-- Where building stops at a tree that is too deep, a state is reached whose next item is refused
for its depth. -/
theorem Building.exists_of_tooDeep {items rest : List Postfix} {stack : List Graded} {limit : Nat}
    (h : Building items stack rest)
    (fails : rest.foldlM pushItem stack >>= only = .error (.tooDeep limit)) :
    ∃ stack' item rest', Building items stack' (item :: rest') ∧
      pushItem stack' item = .error (.tooDeep limit) := by
  induction rest generalizing stack with
  | nil => exact absurd fails (only_ne_tooDeep stack limit)
  | cons item rest ih =>
    rw [List.foldlM_cons] at fails
    cases hpush : pushItem stack item with
    | error e =>
      rw [hpush] at fails
      cases fails
      exact ⟨stack, item, rest, h, hpush⟩
    | ok stack' =>
      rw [hpush] at fails
      exact ih (h.step hpush) fails

/-- Building stops at a tree that is too deep if and only if it comes to two trees whose join would
have one level too many. -/
theorem ofPostfix_eq_tooDeep_iff {items : List Postfix} {limit : Nat} :
    ofPostfix items = .error (.tooDeep limit) ↔ limit = maxDepth ∧
      ∃ right left below k position rest,
        Building items (right :: left :: below) (.connective k position :: rest) ∧
          (node k left.tree right.tree).depth = maxDepth + 1 := by
  constructor
  · intro h
    obtain ⟨stack, item, rest, hreached, hpush⟩ := Building.start.exists_of_tooDeep h
    obtain ⟨k, position, right, left, below, rfl, rfl, hjoin⟩ := pushItem_eq_tooDeep_iff.1 hpush
    obtain ⟨hright, hleft, -⟩ := by simpa using hreached.isTrue
    obtain ⟨hlimit, hdepth⟩ := (hleft.join_eq_error_iff hright).1 hjoin
    exact ⟨SyntaxError.tooDeep.inj hlimit, right, left, below, k, position, rest, hreached, hdepth⟩
  · rintro ⟨rfl, right, left, below, k, position, rest, hreached, hdepth⟩
    obtain ⟨hright, hleft, -⟩ := by simpa using hreached.isTrue
    have hpush : pushItem (right :: left :: below) (.connective k position) =
        .error (.tooDeep maxDepth) :=
      map_eq_error.2 ((hleft.join_eq_error_iff hright).2 ⟨rfl, hdepth⟩)
    rw [hreached.ofPostfix_eq, List.foldlM_cons, hpush]
    rfl

/-- Whatever the items are, in every state that building them reaches, that is behind every item
that is applied, the trees on the stack are kept with their depths, 100 at most, and so is what
texts are joined to behind every text. A tree that is built has 100 levels at most, and building
stops at a tree that is too deep if and only if the join of two trees on the stack would have 101
levels. -/
theorem depth_kept_while_made :
    (∀ items stack rest,
      (Building items stack rest ↔
        ∃ done, items = done ++ rest ∧ done.foldlM pushItem [] = .ok stack) ∧
      (Building items stack rest → ∀ g ∈ stack, g.depth = g.tree.depth ∧ g.tree.depth ≤ 100)) ∧
    (∀ items limit, ofPostfix items = .error (.tooDeep limit) ↔ limit = 100 ∧
      ∃ right left below k position rest,
        Building items (right :: left :: below) (.connective k position :: rest) ∧
          (node k left.tree right.tree).depth = 101) ∧
    (∀ items t, ofPostfix items = .ok t → t.depth ≤ 100) ∧
    ∀ sources joined index rest,
      (Joining sources joined index rest ↔
        ∃ done, sources = done ++ rest ∧ done.length = index ∧
          combineFrom none 0 done = .ok joined) ∧
      (Joining sources joined index rest →
        ∀ g ∈ joined, g.depth = g.tree.depth ∧ g.tree.depth ≤ 100) := by
  refine ⟨fun items stack rest => ⟨Building.iff_foldlM, fun h g hg => ?_⟩,
    fun items limit => ofPostfix_eq_tooDeep_iff, fun items t h => depth_le_of_ofPostfix h,
    fun sources joined index rest => ⟨Joining.iff_combineFrom, fun h g hg => ?_⟩⟩
  · exact ⟨(h.isTrue g hg).depth_eq, (h.isTrue g hg).depth_le⟩
  · exact ⟨(h.isTrue g hg).depth_eq, (h.isTrue g hg).depth_le⟩

/-- A chain of 101 conditions stops at its last join, with true depths on the stack; one of 100 is
built. A text that is refused leaves what the texts in front of it are joined to as it was. -/
theorem depth_kept_while_made_long_chain :
    let c : Condition := ⟨"a", .eq, .text "x"⟩
    let chain (joins : Nat) : List Postfix :=
      .operand c :: (List.replicate joins [.operand c, .connective .and 7]).flatten
    let tree : Tree := (List.replicate 99 (leaf c)).foldl (node .and) (.leaf c)
    (∃ right left below k position rest,
      Building (chain 100) (right :: left :: below) (.connective k position :: rest) ∧
        (node k left.tree right.tree).depth = 101 ∧
        left.depth = left.tree.depth ∧ left.tree.depth ≤ 100) ∧
      (ofPostfix (chain 99) = .ok tree ∧ tree.depth ≤ 100) ∧
      ∃ joined, Joining ["a = 'x'", "(a = 'x' OR"] (some joined) 1 ["(a = 'x' OR"] ∧
        combineFrom none 0 ["a = 'x'", "(a = 'x' OR"] =
          .error (.combineFailed 1 (.unbalancedParenthesis 0)) ∧
        joined.depth = joined.tree.depth ∧ joined.tree.depth ≤ 100 := by
  intro c chain tree
  obtain ⟨building, tooDeep, built, joining⟩ := depth_kept_while_made
  have stops : ofPostfix (chain 100) = .error (.tooDeep 100) := by decide +kernel
  have finishes : ofPostfix (chain 99) = .ok tree := by decide +kernel
  have compiled : compile "a = 'x'" = .ok (.leaf c) := by decide +kernel
  have refused : compile "(a = 'x' OR" = .error (.unbalancedParenthesis 0) := by decide +kernel
  refine ⟨?_, ⟨finishes, built _ _ finishes⟩, ?_⟩
  · obtain ⟨-, right, left, below, k, position, rest, reached, depth⟩ := (tooDeep _ _).1 stops
    have kept := (building _ _ _).2 reached left (by simp)
    exact ⟨right, left, below, k, position, rest, reached, depth, kept⟩
  · have first : combineNext none "a = 'x'" 0 = .ok (some ⟨.leaf c, 1⟩) := by
      rw [combineNext, compiled]
      rfl
    have reached : Joining ["a = 'x'", "(a = 'x' OR"] (some ⟨.leaf c, 1⟩) 1 ["(a = 'x' OR"] :=
      Joining.start.step first
    refine ⟨_, reached, ?_, (joining _ _ _ _).2 reached _ rfl⟩
    rw [combineFrom, first]
    change combineFrom (some ⟨.leaf c, 1⟩) 1 ["(a = 'x' OR"] = _
    rw [combineFrom, combineNext, refused]
    rfl

end Rulebook.Tree
