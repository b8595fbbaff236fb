import Rulebook.Proofs.Canonical
import Rulebook.Rule.Evaluate

/-!
# What an evaluation depends on

An evaluation with or without a trace comes to the verdict of the tree, and all it takes from a
record is whether each condition of the tree holds for it (`Tree.execute_congr`). A record that has
been read from a text in place of one with distinct keys makes no difference
(`Tree.execute_eq_of_member?`).
-/

namespace Rulebook

/-- The order of an object's members does not matter to a comparison. -/
theorem Comparator.holds_canonical (c : Comparator) (v : Json) (l : Literal) :
    c.holds v.canonical l = c.holds v l := by
  cases v with
  | array items =>
    rw [Json.canonical]
    cases c <;> rfl
  | object members =>
    rw [Json.canonical, Json.ofMembers]
    cases c <;> rfl
  | _ => rw [Json.canonical]

namespace Tree

/-- An evaluation comes to the verdict of the tree. -/
theorem fst_walk (traced : Bool) (record : Record) (path : String) (t : Tree) (log : Log) :
    (t.walk traced record path log).1 = t.holds record := by
  induction t generalizing path log with
  | leaf c =>
    rw [walk, holds]
    cases traced <;> rfl
  | node k left right ihl ihr =>
    rw [walk, holds, ← ihl (if traced then path ++ ".left" else "") log,
      ← ihr (if traced then path ++ ".right" else "")
        (left.walk traced record (if traced then path ++ ".left" else "") log).2]
    cases traced <;> rfl

/-- An evaluation comes to the verdict of the tree. -/
theorem isMatch_execute (traced : Bool) (record : Record) (t : Tree) :
    (t.execute traced record).isMatch = t.holds record :=
  fst_walk traced record "root" t ⟨[], []⟩

/-- Two records for which the conditions of a tree hold alike are walked alike. -/
theorem walk_congr {record record' : Record} {t : Tree}
    (h : ∀ c ∈ t.leaves, c.holds record = c.holds record') (traced : Bool) (path : String)
    (log : Log) : t.walk traced record path log = t.walk traced record' path log := by
  induction t generalizing path log with
  | leaf c => rw [walk, walk, h c List.mem_cons_self]
  | node k left right ihl ihr =>
    rw [walk, walk]
    simp only [ihl fun c hc => h c (List.mem_append_left _ hc),
      ihr fun c hc => h c (List.mem_append_right _ hc)]

/-- Two records for which the conditions of a tree hold alike are evaluated alike. -/
theorem execute_congr {record record' : Record} {t : Tree}
    (h : ∀ c ∈ t.leaves, c.holds record = c.holds record') (traced : Bool) :
    t.execute traced record = t.execute traced record' := by
  rw [execute, execute, walk_congr h]

/-- A record with the same values under the same keys, as they are read, is evaluated alike. -/
theorem execute_eq_of_member? {record record' : Record}
    (h : ∀ key, Json.member? key record' = (Json.member? key record).map Json.canonical)
    (t : Tree) (traced : Bool) : t.execute traced record' = t.execute traced record := by
  refine execute_congr (fun c _ => ?_) traced
  rw [Condition.holds, Condition.holds, h]
  cases Json.member? c.field record with
  | none => rfl
  | some v => exact c.comparator.holds_canonical v c.literal

end Tree

end Rulebook
