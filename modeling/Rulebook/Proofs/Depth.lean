import Rulebook.Proofs.Outcome
import Rulebook.Rule.Compile

/-!
# Trees in the making

What an item does to the stack of trees is said once (`cases_of_pushItem`), and so is why it cannot
be applied (`cases_of_pushItem_eq_error`) and what a join makes (`Graded.join_eq`).

Every tree that is built is kept with its depth, and a join that would make more than `maxDepth`
levels is refused before it is made. So the depth that is kept is the true one and never greater
(`Graded.IsTrue`): of the trees on the stack after every item, and of the trees joined so far after
every text. Compiled and combined trees are no deeper than that.
-/

namespace Rulebook.Tree

namespace Graded

/-- The depth is the depth of the tree, and not too great. -/
structure IsTrue (g : Graded) : Prop where
  depth_eq : g.depth = g.tree.depth
  depth_le : g.tree.depth ≤ maxDepth

/-- Two trees with their true depths are joined to a tree with its true depth, or not at all. -/
theorem join_eq (k : Connective) (l r : Tree) :
    join k ⟨l, l.depth⟩ ⟨r, r.depth⟩ =
      if (node k l r).depth ≤ maxDepth then .ok ⟨node k l r, (node k l r).depth⟩
      else .error (.tooDeep maxDepth) := by
  have hdepth : (node k l r).depth = max l.depth r.depth + 1 := Nat.add_comm _ _
  rw [hdepth]
  change (if maxDepth < max l.depth r.depth + 1 then _ else _) = _
  split
  · rw [if_neg (by omega)]
  · rw [if_pos (by omega)]

/-- A join has the connective on top of the two trees. -/
theorem tree_of_join {k : Connective} {left right g : Graded} (h : left.join k right = .ok g) :
    g.tree = .node k left.tree right.tree := by
  unfold join at h
  dsimp only at h
  split at h
  · cases h
  · cases h
    rfl

/-- A true tree is its tree with the depth of that. -/
theorem IsTrue.eq_mk {g : Graded} (h : g.IsTrue) : g = ⟨g.tree, g.tree.depth⟩ :=
  congrArg (Graded.mk g.tree) h.depth_eq

/-- A join of true trees is true. -/
theorem IsTrue.join {k : Connective} {left right g : Graded} (hleft : left.IsTrue)
    (hright : right.IsTrue) (h : Graded.join k left right = .ok g) : g.IsTrue := by
  rw [hleft.eq_mk, hright.eq_mk, join_eq] at h
  split at h
  · next hle =>
    cases h
    exact ⟨rfl, hle⟩
  · cases h

end Graded

/-- A leaf has one level. -/
theorem isTrue_leaf (c : Condition) : (⟨.leaf c, 1⟩ : Graded).IsTrue :=
  ⟨rfl, (by decide : 1 ≤ maxDepth)⟩

/-- A condition is put on the stack as a leaf, and a connective joins the two trees on top. -/
theorem cases_of_pushItem {stack stack' : List Graded} {item : Postfix}
    (h : pushItem stack item = .ok stack') :
    (∃ c, item = .operand c ∧ stack' = ⟨.leaf c, 1⟩ :: stack) ∨
      ∃ k position left right rest g, item = .connective k position ∧
        stack = right :: left :: rest ∧ Graded.join k left right = .ok g ∧ stack' = g :: rest := by
  cases item with
  | operand c =>
    cases h
    exact .inl ⟨c, rfl, rfl⟩
  | connective k position =>
    match stack, h with
    | [], h => cases h
    | [_], h => cases h
    | right :: left :: rest, h =>
      obtain ⟨g, hg, rfl⟩ := map_eq_ok.1 h
      exact .inr ⟨k, position, left, right, rest, g, rfl, rfl, hg, rfl⟩

/-- Only a connective cannot be applied: it lacks an operand, or its join is too deep. -/
theorem cases_of_pushItem_eq_error {stack : List Graded} {item : Postfix} {e : SyntaxError}
    (h : pushItem stack item = .error e) :
    ∃ k position, item = .connective k position ∧
      (e = .missingOperand k.keyword position ∨ e = .tooDeep maxDepth) := by
  cases item with
  | operand c => cases h
  | connective k position =>
    refine ⟨k, position, rfl, ?_⟩
    match stack, h with
    | [], h =>
      cases h
      exact .inl rfl
    | [_], h =>
      cases h
      exact .inl rfl
    | right :: left :: rest, h =>
      have hjoin : left.join k right = .error e := map_eq_error.1 h
      unfold Graded.join at hjoin
      dsimp only at hjoin
      split at hjoin
      · cases hjoin
        exact .inr rfl
      · cases hjoin

/-- Every item keeps the trees on the stack true. -/
theorem isTrue_of_pushItem {stack stack' : List Graded} {item : Postfix}
    (hstack : ∀ g ∈ stack, g.IsTrue) (h : pushItem stack item = .ok stack') :
    ∀ g ∈ stack', g.IsTrue := by
  obtain ⟨c, -, rfl⟩ | ⟨k, position, left, right, rest, g, -, rfl, hg, rfl⟩ := cases_of_pushItem h
  · exact List.forall_mem_cons.2 ⟨isTrue_leaf c, hstack⟩
  · obtain ⟨hright, hstack⟩ := List.forall_mem_cons.1 hstack
    obtain ⟨hleft, hrest⟩ := List.forall_mem_cons.1 hstack
    exact List.forall_mem_cons.2 ⟨hleft.join hright hg, hrest⟩

/-- A row of items keeps the trees on the stack true. -/
theorem isTrue_of_foldlM_pushItem {items : List Postfix} {stack stack' : List Graded}
    (hstack : ∀ g ∈ stack, g.IsTrue) (h : items.foldlM pushItem stack = .ok stack') :
    ∀ g ∈ stack', g.IsTrue := by
  induction items generalizing stack with
  | nil =>
    cases h
    exact hstack
  | cons item items ih =>
    rw [List.foldlM_cons] at h
    obtain ⟨middle, hstep, hrest⟩ := bind_eq_ok.1 h
    exact ih (isTrue_of_pushItem hstack hstep) hrest

/-- A tree that is built is not too deep. -/
theorem depth_le_of_ofPostfix {items : List Postfix} {t : Tree} (h : ofPostfix items = .ok t) :
    t.depth ≤ maxDepth := by
  obtain ⟨stack, hstack, honly⟩ := bind_eq_ok.1 h
  have htrue := isTrue_of_foldlM_pushItem (by simp) hstack
  match stack, honly, htrue with
  | [g], honly, htrue =>
    cases honly
    exact (htrue g List.mem_cons_self).depth_le

/-- A compiled tree is not too deep. -/
theorem depth_le_of_compile {source : String} {t : Tree} (h : compile source = .ok t) :
    t.depth ≤ maxDepth := by
  obtain ⟨items, -, hbuilt⟩ := bind_eq_ok.1 h
  exact depth_le_of_ofPostfix hbuilt

/-! ## Several texts -/

/-- What holds of a compiled tree with its depth, and of every join of such a tree to what it holds
of, holds of the trees joined so far when the next one is joined to them. -/
theorem forall_mem_combineNext {P : Graded → Prop}
    (compiled : ∀ {source t}, compile source = .ok t → P ⟨t, t.depth⟩)
    (joined : ∀ {left right g}, P left → P right → Graded.join .and left right = .ok g → P g)
    {source : String} {index : Nat} {before after : Option Graded}
    (hbefore : ∀ g ∈ before, P g) (h : combineNext before source index = .ok after) :
    ∀ g ∈ after, P g := by
  unfold combineNext at h
  split at h
  · cases h
  · next t hcompiled =>
    -- The next tree is the first of all, or it is joined to what there is.
    split at h
    · cases h
      rintro g ⟨⟩
      exact compiled hcompiled
    · next left =>
      split at h
      · cases h
      · next g hjoined =>
        cases h
        rintro g ⟨⟩
        exact joined (hbefore left rfl) (compiled hcompiled) hjoined

/-- What holds of a compiled tree with its depth, and of every join of such a tree to what it holds
of, holds of the trees joined so far. -/
theorem combineFrom_induction {P : Graded → Prop}
    (compiled : ∀ {source t}, compile source = .ok t → P ⟨t, t.depth⟩)
    (joined : ∀ {left right g}, P left → P right → Graded.join .and left right = .ok g → P g)
    {sources : List String} {index : Nat} {before after : Option Graded}
    (hbefore : ∀ g ∈ before, P g) (h : combineFrom before index sources = .ok after) :
    ∀ g ∈ after, P g := by
  induction sources generalizing before index with
  | nil =>
    cases h
    exact hbefore
  | cons source sources ih =>
    obtain ⟨middle, hnext, hrest⟩ := bind_eq_ok.1 h
    exact ih (forall_mem_combineNext compiled joined hbefore hnext) hrest

/-- What holds of a compiled tree with its depth, and of every join of such a tree to what it holds
of, holds of a combined tree. -/
theorem combine_induction {P : Graded → Prop}
    (compiled : ∀ {source t}, compile source = .ok t → P ⟨t, t.depth⟩)
    (joined : ∀ {left right g}, P left → P right → Graded.join .and left right = .ok g → P g)
    {sources : List String} {t : Tree} (h : combine sources = .ok (some t)) :
    ∃ g, P g ∧ g.tree = t := by
  obtain ⟨after, hafter, hmap⟩ := map_eq_ok.1 h
  obtain ⟨g, rfl, htree⟩ := Option.map_eq_some_iff.1 hmap
  exact ⟨g, combineFrom_induction compiled joined (by simp) hafter g rfl, htree⟩

/-- A combined tree is not too deep. -/
theorem depth_le_of_combine {sources : List String} {t : Tree}
    (h : combine sources = .ok (some t)) : t.depth ≤ maxDepth := by
  obtain ⟨g, htrue, rfl⟩ := combine_induction (P := Graded.IsTrue)
    (fun h => ⟨rfl, depth_le_of_compile h⟩) (fun hleft hright h => hleft.join hright h) h
  exact htrue.depth_le

end Rulebook.Tree
