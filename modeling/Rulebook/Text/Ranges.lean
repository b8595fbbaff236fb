/-!
# Sets of code points

A character class of Unicode is a sorted table of closed ranges, searched by halving. What the
search answers `true` to does lie in a range of the table (`Ranges.exists_range_of_contains`),
whatever the table is.
-/

namespace Rulebook.Text

/-- A set of code points: closed ranges, in ascending order and apart from each other. -/
structure Ranges where
  table : Array (Nat × Nat)

namespace Ranges

/-- Whether `c` lies in a range with an index from `lo` to below `hi`, in at most `steps`
halvings. -/
def search (table : Array (Nat × Nat)) (c : Nat) : (steps lo hi : Nat) → Bool
  | 0, _, _ => false
  | steps + 1, lo, hi =>
    if lo < hi then
      match table[(lo + hi) / 2]? with
      | none => false
      | some (first, last) =>
        if c < first then search table c steps lo ((lo + hi) / 2)
        else if last < c then search table c steps ((lo + hi) / 2 + 1) hi
        else true
    else false

/-- Whether the code point `c` is in the set. -/
def contains (r : Ranges) (c : Nat) : Bool :=
  search r.table c r.table.size 0 r.table.size

/-- What the search finds lies in a range of the table. -/
theorem exists_range_of_search {table : Array (Nat × Nat)} {c : Nat} {steps lo hi : Nat}
    (h : search table c steps lo hi = true) : ∃ r ∈ table, r.1 ≤ c ∧ c ≤ r.2 := by
  induction steps generalizing lo hi with
  | zero => simp [search] at h
  | succ steps ih =>
    unfold search at h
    split at h
    · split at h
      · contradiction
      · rename_i first last hmid
        split at h
        · exact ih h
        · split at h
          · exact ih h
          · exact ⟨(first, last), Array.mem_of_getElem? hmid, by simp; omega, by simp; omega⟩
    · contradiction

/-- A member of a set lies in one of its ranges. -/
theorem exists_range_of_contains {r : Ranges} {c : Nat} (h : r.contains c = true) :
    ∃ q ∈ r.table, q.1 ≤ c ∧ c ≤ q.2 :=
  exists_range_of_search h

end Ranges

end Rulebook.Text
