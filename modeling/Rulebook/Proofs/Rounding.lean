import Rulebook.Proofs.Comparison
import Rulebook.Proofs.Scaling

/-!
# Rounding and the order of integers

Doubles are compared by their levels (`Double.compare?_eq_level`), and rounding gives no greater
integer a lower level (`Double.level_ofInt_le`). Different integers may have one level, but their
order is never reversed: rounding never makes an integer greater or less than another that it is not
(`Comparator.relates_of_level_ofInt`), and never takes from two integers that the one is at least or
at most the other (`Comparator.relates_level_ofInt`). Up to 53 bits the level of an integer is the
integer, in units (`Double.level_ofInt_eq`).
-/

namespace Rulebook

/-! ## Levels -/

namespace Double

/-- The units of a double with their sign. An infinity has as many as no finite double has. -/
def level : Double → Int
  | .nan => 0
  | .infinite negative => signed negative overflowUnits
  | .finite negative units _ => signed negative units

/-- The level of a finite double lies between those of the infinities. -/
theorem level_finite_bounds (negative : Bool) {units : Nat} (h : Representable units) :
    signed true overflowUnits < signed negative units ∧
      signed negative units < signed false overflowUnits := by
  have hlt := h.1
  cases negative with
  | false =>
    simp only [signed, if_true, Bool.false_eq_true, if_false]
    omega
  | true =>
    simp only [signed, if_true, Bool.false_eq_true, if_false]
    omega

/-- The level of negative infinity is the lower one. -/
theorem level_infinite_lt : signed true overflowUnits < signed false overflowUnits := by
  have hpos := overflowUnits_pos
  simp only [signed, if_true, Bool.false_eq_true, if_false]
  omega

/-- Two doubles that are not NaN are compared by their levels. -/
theorem compare?_eq_level {x y : Double} (hx : x.isNaN = false) (hy : y.isNaN = false) :
    x.compare? y = some (compare x.level y.level) := by
  have hinfinite := level_infinite_lt
  cases x with
  | nan => cases hx
  | infinite negative =>
    cases y with
    | nan => cases hy
    | infinite negative' =>
      cases negative <;> cases negative'
      · exact congrArg some (Int.compare_eq_eq.2 rfl).symm
      · exact congrArg some (Int.compare_eq_gt.2 hinfinite).symm
      · exact congrArg some (Int.compare_eq_lt.2 hinfinite).symm
      · exact congrArg some (Int.compare_eq_eq.2 rfl).symm
    | finite negative' units h =>
      obtain ⟨hlow, hhigh⟩ := level_finite_bounds negative' h
      cases negative
      · exact congrArg some (Int.compare_eq_gt.2 hhigh).symm
      · exact congrArg some (Int.compare_eq_lt.2 hlow).symm
  | finite negative units h =>
    cases y with
    | nan => cases hy
    | infinite negative' =>
      obtain ⟨hlow, hhigh⟩ := level_finite_bounds negative h
      cases negative'
      · exact congrArg some (Int.compare_eq_lt.2 hhigh).symm
      · exact congrArg some (Int.compare_eq_gt.2 hlow).symm
    | finite negative' units' h' => rfl

/-- What is rounded is not a NaN. -/
theorem isNaN_ofRatio (negative : Bool) (num den : Nat) :
    (ofRatio negative num den).isNaN = false := by
  unfold ofRatio
  split <;> rfl

/-- A rounded integer is not a NaN. -/
theorem isNaN_ofInt (i : Int) : (ofInt i).isNaN = false := isNaN_ofRatio _ _ _

/-- The level of what is rounded. -/
theorem level_ofRatio (negative : Bool) (num den : Nat) :
    (ofRatio negative num den).level =
      signed negative (min (roundUnits num den) overflowUnits) := by
  unfold ofRatio
  split
  · next hlt =>
    rw [Nat.min_eq_left (Nat.le_of_lt hlt)]
    rfl
  · next hge =>
    rw [Nat.min_eq_right (Nat.le_of_not_lt hge)]
    rfl

/-- A greater integer is not rounded to a lower level. -/
theorem level_ofInt_le {i j : Int} (h : i ≤ j) : (ofInt i).level ≤ (ofInt j).level := by
  have hmono {m n : Nat} (hle : m ≤ n) :
      min (roundUnits (m * unitsPerOne) 1) overflowUnits ≤
        min (roundUnits (n * unitsPerOne) 1) overflowUnits := by
    have hround := roundUnits_le_of_le 1 (Nat.mul_le_mul_right unitsPerOne hle)
    omega
  rw [ofInt, ofInt, level_ofRatio, level_ofRatio]
  -- Below zero the order of the magnitudes is the other way round.
  by_cases hi : i < 0
  · by_cases hj : j < 0
    · have hle := hmono (by omega : j.natAbs ≤ i.natAbs)
      simp only [hi, hj, decide_true, signed, if_true]
      omega
    · simp only [hi, hj, decide_true, decide_false, signed, if_true, Bool.false_eq_true, if_false]
      omega
  · have hj : ¬ j < 0 := by omega
    have hle := hmono (by omega : i.natAbs ≤ j.natAbs)
    simp only [hi, hj, decide_false, signed, Bool.false_eq_true, if_false]
    omega

/-- A sign goes with the first factor. -/
theorem signed_mul (negative : Bool) (m n : Nat) :
    signed negative (m * n) = signed negative m * n := by
  cases negative with
  | false => exact Int.natCast_mul m n
  | true => exact (congrArg Neg.neg (Int.natCast_mul m n)).trans (Int.neg_mul _ _).symm

/-- An integer with a sign has the level of its magnitude rounded with the sign. -/
theorem level_ofInt_signed (negative : Bool) (m : Nat) :
    (ofInt (signed negative m)).level = (ofRatio negative (m * unitsPerOne) 1).level := by
  rw [ofInt, natAbs_signed, level_ofRatio, level_ofRatio]
  cases m with
  | zero =>
    -- Zero has one level with either sign.
    rw [Nat.zero_mul, roundUnits_eq_zero (by decide), Nat.zero_min]
    cases negative <;> rfl
  | succ m =>
    rw [decide_signed_lt, decide_eq_true (Nat.succ_ne_zero m), Bool.and_true]

/-- An integer is its magnitude with its sign. -/
theorem signed_natAbs (i : Int) : signed (decide (i < 0)) i.natAbs = i := by
  by_cases hi : i < 0
  · rw [decide_eq_true hi, signed, if_pos rfl]
    omega
  · rw [decide_eq_false hi, signed, if_neg Bool.false_ne_true]
    omega

/-- An integer of at most 53 bits has its own units as its level. -/
theorem level_ofInt_eq {i : Int} (h : i.natAbs ≤ Nat.pow 2 53) :
    (ofInt i).level = i * unitsPerOne := by
  have hlevel : (ofInt i).level = signed (decide (i < 0)) (i.natAbs * unitsPerOne) := by
    rw [ofInt_eq h]
    rfl
  rw [hlevel, signed_mul, signed_natAbs]

end Double

/-! ## Comparators of integers -/

namespace Comparator

/-- What a comparator says of two integers. -/
def relates : Comparator → Int → Int → Prop
  | .gt, a, b => b < a
  | .lt, a, b => a < b
  | .ge, a, b => b ≤ a
  | .le, a, b => a ≤ b
  | .eq, a, b => a = b
  | .unsupported _, _, _ => False

variable {c : Comparator} {a b : Int}

/-- A comparator that excludes equality says of rounded integers only what it says of the
integers. -/
theorem relates_of_level_ofInt (hc : c ∈ [.gt, .lt])
    (h : c.relates (Double.ofInt a).level (Double.ofInt b).level) : c.relates a b := by
  have hlt {i j : Int} (hlevel : (Double.ofInt i).level < (Double.ofInt j).level) : i < j := by
    by_contra hge
    have hle := Double.level_ofInt_le (Int.not_lt.1 hge)
    omega
  simp only [List.mem_cons, List.not_mem_nil, or_false] at hc
  rcases hc with rfl | rfl
  · exact hlt h
  · exact hlt h

/-- A comparator that admits equality says of rounded integers all that it says of the integers. -/
theorem relates_level_ofInt (hc : c ∈ [.ge, .le, .eq]) (h : c.relates a b) :
    c.relates (Double.ofInt a).level (Double.ofInt b).level := by
  simp only [List.mem_cons, List.not_mem_nil, or_false] at hc
  rcases hc with rfl | rfl | rfl
  · exact Double.level_ofInt_le h
  · exact Double.level_ofInt_le h
  · exact congrArg (fun i => (Double.ofInt i).level) h

/-- A comparator says of rounded integers of at most 53 bits what it says of the integers. -/
theorem relates_level_ofInt_iff (ha : a.natAbs ≤ Nat.pow 2 53) (hb : b.natAbs ≤ Nat.pow 2 53) :
    c.relates (Double.ofInt a).level (Double.ofInt b).level ↔ c.relates a b := by
  have hu : 0 < (unitsPerOne : Int) := Int.natCast_pos.2 unitsPerOne_pos
  rw [Double.level_ofInt_eq ha, Double.level_ofInt_eq hb]
  cases c with
  | gt => exact Int.mul_lt_mul_right hu
  | lt => exact Int.mul_lt_mul_right hu
  | ge => exact Int.mul_le_mul_right hu
  | le => exact Int.mul_le_mul_right hu
  | eq => exact Int.mul_eq_mul_right_iff (Int.ne_of_gt hu)
  | unsupported _ => exact Iff.rfl

/-- A comparator holds between a number and a literal that are not NaN if and only if it says so of
their levels. -/
theorem holds_number_iff {x : Json.Number} {l : Literal} (hx : x.toDouble.isNaN = false)
    (hl : l.asNumber.isNaN = false) (c : Comparator) :
    c.holds (.number x) l = true ↔ c.relates x.toDouble.level l.asNumber.level := by
  have htexts : ¬ Json.BothTexts (.number x) l := nofun
  have horder : Json.looseOrder? (.number x) l =
      some (compare x.toDouble.level l.asNumber.level) := by
    rw [Json.looseOrder?_eq htexts]
    exact Double.compare?_eq_level hx hl
  cases c with
  | eq =>
    rw [holds, Json.looselyEquals_eq rfl htexts, horder]
    simp [relates]
  | unsupported symbol => simp [holds, relates]
  | gt => simp [holds, horder, relates, Int.compare_eq_gt]
  | lt => simp [holds, horder, relates, Int.compare_eq_lt]
  | ge => simp [holds, horder, relates, Int.isGE_compare]
  | le => simp [holds, horder, relates, Int.isLE_compare]

end Comparator

end Rulebook
