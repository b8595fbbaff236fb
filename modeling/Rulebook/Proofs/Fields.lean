import Rulebook.Proofs.Evaluation

/-!
# What an evaluation reads

A tree names its fields (`Tree.fields`), and an evaluation reads no others: two records that agree
on them, where a field that is absent differs from one that is null, are evaluated alike with and
without a trace (`Tree.execute_eq_of_agree_on_fields`). The list of the fields is ordered and
without repetitions, but what counts is only that it has the field of every condition
(`Tree.mem_fields_iff`).
-/

namespace Rulebook

/-- A member that is taken away is not found any more, and the others are found as before. -/
theorem Json.member?_filter_ne (key gone : String) (ms : List (String × Json)) :
    member? key (ms.filter (·.1 ≠ gone)) = if key = gone then none else member? key ms := by
  induction ms with
  | nil => exact (ite_self none).symm
  | cons m ms ih =>
    obtain ⟨k, v⟩ := m
    rw [List.filter_cons]
    by_cases hk : k = gone
    · subst hk
      rw [if_neg (by simp), ih, member?_cons]
      by_cases h : key = k <;> simp [h]
    · rw [if_pos (by simpa using hk), member?_cons, member?_cons, ih]
      by_cases h : key = k
      · subst h
        simp [hk]
      · simp [h]

namespace Tree

/-- A list has the field that is inserted and those that it had. -/
theorem mem_insertField {field f : String} {fs : List String} :
    f ∈ insertField field fs ↔ f = field ∨ f ∈ fs := by
  induction fs with
  | nil => simp [insertField]
  | cons first rest ih =>
    rw [insertField]
    split
    · exact List.mem_cons
    · split
      · next heq =>
        subst heq
        simp
      · rw [List.mem_cons, ih, List.mem_cons]
        exact or_left_comm

/-- The fields of some conditions are gathered behind those that were there. -/
theorem mem_foldl_insertField {cs : List Condition} {fs : List String} {f : String} :
    f ∈ cs.foldl (fun fs c => insertField c.field fs) fs ↔ f ∈ fs ∨ ∃ c ∈ cs, c.field = f := by
  induction cs generalizing fs with
  | nil => simp
  | cons c cs ih =>
    rw [List.foldl_cons, ih, mem_insertField]
    simp only [List.mem_cons, exists_eq_or_imp]
    rw [or_assoc, or_left_comm, @eq_comm _ f]

/-- The fields of a tree are those of its conditions. -/
theorem mem_fields_iff {t : Tree} {f : String} : f ∈ t.fields ↔ ∃ c ∈ t.leaves, c.field = f := by
  rw [fields, mem_foldl_insertField]
  simp

/-- Records that agree on the fields of a tree satisfy the same of its conditions. -/
theorem holds_eq_of_agree_on_fields {t : Tree} {record record' : Record}
    (agree : ∀ f ∈ t.fields, Json.member? f record = Json.member? f record') :
    ∀ c ∈ t.leaves, c.holds record = c.holds record' := by
  intro c hc
  rw [Condition.holds, Condition.holds, agree c.field (mem_fields_iff.2 ⟨c, hc, rfl⟩)]

/-- Records that agree on the fields of a tree, on which of them are there and on the values of
those, are evaluated alike: with the same verdict, the same conditions kept and the same lines. So
it makes no difference to add, to change or to take away a field that the tree does not name. -/
theorem execute_eq_of_agree_on_fields (t : Tree) :
    (∀ (traced : Bool) (record record' : Record),
      (∀ f ∈ t.fields, Json.member? f record = Json.member? f record') →
        t.execute traced record = t.execute traced record') ∧
    ∀ (traced : Bool) (record : Record) (f : String), f ∉ t.fields →
      (∀ v, t.execute traced (Json.insertMember f v record) = t.execute traced record) ∧
        t.execute traced (record.filter (·.1 ≠ f)) = t.execute traced record := by
  have hagree (traced : Bool) (record record' : Record)
      (agree : ∀ f ∈ t.fields, Json.member? f record = Json.member? f record') :
      t.execute traced record = t.execute traced record' :=
    execute_congr (holds_eq_of_agree_on_fields agree) traced
  refine ⟨hagree, fun traced record f hf => ⟨fun v => ?_, ?_⟩⟩
  · refine hagree traced _ _ fun g hg => ?_
    have hne : g ≠ f := fun heq => hf (heq ▸ hg)
    rw [Json.member?_insertMember, if_neg hne]
  · refine hagree traced _ _ fun g hg => ?_
    have hne : g ≠ f := fun heq => hf (heq ▸ hg)
    rw [Json.member?_filter_ne, if_neg hne]

/-- Both records lack the field `b`, and the first one has a field `c` besides. A null in place of
the absent `b` makes a difference. -/
theorem execute_eq_of_agree_on_fields_absent :
    let t : Tree := .node .or (.leaf ⟨"a", .gt, .text "x"⟩) (.leaf ⟨"b", .le, .number .zero⟩)
    t.execute true [("a", .string "w"), ("c", .null)] = t.execute true [("a", .string "w")] ∧
      t.execute true [("a", .string "w")] ≠ t.execute true [("a", .string "w"), ("b", .null)] ∧
      t.execute false (Json.insertMember "c" .null [("a", .string "w")]) =
        t.execute false [("a", .string "w")] := by
  intro t
  obtain ⟨hagree, hother⟩ := execute_eq_of_agree_on_fields t
  have hfields : t.fields = ["a", "b"] := by decide +kernel
  refine ⟨hagree true _ _ ?_, ?_, (hother false _ "c" ?_).1 .null⟩
  · rw [hfields]
    exact List.forall_mem_cons.2 ⟨rfl, List.forall_mem_singleton.2 rfl⟩
  · decide +kernel
  · rw [hfields]
    decide

end Tree

end Rulebook
