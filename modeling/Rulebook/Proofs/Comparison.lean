import Rulebook.Rule.Evaluate

/-!
# How the comparators fit together

A value and a literal are comparable if both are texts or if both stand for a number that is not a
NaN. If they are not, no comparator holds between them; if they are, the comparators of order decide
for one of three cases, and the two that admit equality are the negations of the other two
(`Comparator.holds_consistent`).

Equality is read off a table of its own. Null, arrays and objects equal nothing, although null has a
place in the order, and two texts are equal without regard to letter case, although the order
regards it. For everything else equality is what the order says.
-/

namespace Rulebook

/-! ## The order of two doubles -/

namespace Double

/-- A double has a place among the extended reals unless it is a NaN. -/
theorem rank_eq_none_iff {x : Double} : x.rank = none ↔ x.isNaN = true := by
  cases x with
  | nan => exact ⟨fun _ => rfl, fun _ => rfl⟩
  | infinite negative => exact ⟨nofun, nofun⟩
  | finite negative units h => exact ⟨nofun, nofun⟩

/-- Two doubles have an order unless one of them is a NaN. -/
theorem compare?_eq_none_iff {x y : Double} :
    x.compare? y = none ↔ x.isNaN = true ∨ y.isNaN = true := by
  rw [← rank_eq_none_iff, ← rank_eq_none_iff, compare?]
  cases x.rank with
  | none => simp
  | some a =>
    cases y.rank with
    | none => simp
    | some b => simp

end Double

/-! ## The order of a value and a literal -/

/-- A value and a literal that are both texts. -/
def Json.BothTexts (v : Json) (l : Literal) : Prop := ∃ s t, v = .string s ∧ l = .text t

/-- A value and a literal that have an order: two texts, or two that stand for numbers. -/
def Json.Comparable (v : Json) (l : Literal) : Prop :=
  v.BothTexts l ∨ v.asNumber.isNaN = false ∧ l.asNumber.isNaN = false

/-- A value that equals no literal. -/
def Json.equalsNothing : Json → Bool
  | .null => true
  | .array _ => true
  | .object _ => true
  | _ => false

namespace Json

/-- Unless both are texts, a value and a literal are ordered as numbers. -/
theorem looseOrder?_eq {v : Json} {l : Literal} (h : ¬v.BothTexts l) :
    v.looseOrder? l = v.asNumber.compare? l.asNumber := by
  unfold looseOrder?
  split
  · next s t => exact absurd ⟨s, t, rfl, rfl⟩ h
  · rfl

/-- Exactly what is comparable has an order. -/
theorem looseOrder?_eq_none_iff {v : Json} {l : Literal} :
    v.looseOrder? l = none ↔ ¬v.Comparable l := by
  by_cases htexts : v.BothTexts l
  · obtain ⟨s, t, rfl, rfl⟩ := htexts
    exact ⟨nofun, fun h => absurd (.inl ⟨s, t, rfl, rfl⟩) h⟩
  · rw [looseOrder?_eq htexts, Double.compare?_eq_none_iff, Comparable, or_iff_right htexts,
      Decidable.not_and_iff_not_or_not, Bool.not_eq_false, Bool.not_eq_false]

/-- Null, an array and an object equal nothing. -/
theorem looselyEquals_eq_false {v : Json} (h : v.equalsNothing = true) (l : Literal) :
    v.looselyEquals l = false := by
  cases v with
  | null => rfl
  | array items => rfl
  | object members => rfl
  | bool b => cases h
  | number n => cases h
  | string s => cases h

/-- Where equality goes by numbers it is what the order says. -/
theorem looselyEquals_eq {v : Json} {l : Literal} (hvalue : v.equalsNothing = false)
    (htexts : ¬v.BothTexts l) : v.looselyEquals l = (v.looseOrder? l == some .eq) := by
  rw [looseOrder?_eq htexts]
  cases v with
  | string s =>
    cases l with
    | text t => exact absurd ⟨s, t, rfl, rfl⟩ htexts
    | number x => rfl
  | number n => rfl
  | bool b => rfl
  | null => cases hvalue
  | array items => cases hvalue
  | object members => cases hvalue

end Json

namespace Comparator

/-- Where there is an order, one of three cases holds, and the comparators that admit equality are
the negations of those that do not. -/
theorem holds_of_looseOrder? {v : Json} {l : Literal} {o : Ordering}
    (h : v.looseOrder? l = some o) :
    [gt.holds v l, lt.holds v l, ge.holds v l && le.holds v l].count true = 1 ∧
      ge.holds v l = !lt.holds v l ∧ le.holds v l = !gt.holds v l := by
  simp only [holds, h, Option.any_some]
  cases o <;> decide

/-- Both comparators that admit equality hold exactly where the order says equal. -/
theorem holds_ge_and_le (v : Json) (l : Literal) :
    (ge.holds v l && le.holds v l) = (v.looseOrder? l == some .eq) := by
  rw [holds, holds]
  cases v.looseOrder? l with
  | none => rfl
  | some o => cases o <;> rfl

/-- Where there is no order, no comparator holds. -/
theorem holds_eq_false {v : Json} {l : Literal} (h : ¬v.Comparable l) (c : Comparator) :
    c.holds v l = false := by
  have horder : v.looseOrder? l = none := Json.looseOrder?_eq_none_iff.2 h
  cases c with
  | eq =>
    have htexts : ¬v.BothTexts l := fun htexts => h (.inl htexts)
    cases hvalue : v.equalsNothing with
    | false =>
      rw [holds, Json.looselyEquals_eq hvalue htexts, horder]
      rfl
    | true => exact Json.looselyEquals_eq_false hvalue l
  | unsupported symbol => rfl
  | _ =>
    rw [holds, horder]
    rfl

/-- Two texts that the order says equal are equal, and so are their lower-case forms. -/
theorem eq_of_holds_ge_and_le {s t : String}
    (h : (ge.holds (.string s) (.text t) && le.holds (.string s) (.text t)) = true) : s = t := by
  rw [holds_ge_and_le] at h
  exact Std.LawfulEqCmp.eq_of_compare (Option.some.inj (beq_iff_eq.1 h))

/-- Between what is not comparable no comparator holds. Between a comparable value and literal one
of greater, less and both of the others holds, and these two are the negations of less and greater.
Null, arrays and objects equal nothing; two texts are equal if and only if their lower-case forms
are, and so whenever the order says equal; all else is equal if and only if the order says equal. -/
theorem holds_consistent (v : Json) (l : Literal) :
    (¬v.Comparable l → ∀ c : Comparator, c.holds v l = false) ∧
      (v.Comparable l →
        [gt.holds v l, lt.holds v l, ge.holds v l && le.holds v l].count true = 1 ∧
          ge.holds v l = !lt.holds v l ∧ le.holds v l = !gt.holds v l) ∧
      (v.equalsNothing = true → eq.holds v l = false) ∧
      (∀ s t, v = .string s → l = .text t →
        (eq.holds v l = true ↔ Text.lower s = Text.lower t) ∧
          ((ge.holds v l && le.holds v l) = true → eq.holds v l = true)) ∧
      (v.equalsNothing = false → ¬v.BothTexts l →
        eq.holds v l = (ge.holds v l && le.holds v l)) := by
  refine ⟨holds_eq_false, fun hcomparable => ?_, fun hvalue => ?_, ?_, fun hvalue htexts => ?_⟩
  · cases horder : v.looseOrder? l with
    | none => exact absurd hcomparable (Json.looseOrder?_eq_none_iff.1 horder)
    | some o => exact holds_of_looseOrder? horder
  · exact Json.looselyEquals_eq_false hvalue l
  · rintro s t rfl rfl
    have hequal : eq.holds (.string s) (.text t) = true ↔ Text.lower s = Text.lower t := beq_iff_eq
    exact ⟨hequal, fun h => hequal.2 (congrArg Text.lower (eq_of_holds_ge_and_le h))⟩
  · rw [holds_ge_and_le, ← Json.looselyEquals_eq hvalue htexts, holds]

/-- Null is neither greater nor less than zero and does not equal it, a capital letter is less than
its small letter but equals it as it equals itself, a numeral in a text equals its number, and a
text that is no numeral has no order with a number. -/
theorem holds_consistent_null :
    (Json.Comparable .null (.number .zero) ∧ ge.holds .null (.number .zero) = true ∧
        le.holds .null (.number .zero) = true ∧ eq.holds .null (.number .zero) = false) ∧
      (ge.holds (.string "É") (.text "é") = false ∧ eq.holds (.string "É") (.text "é") = true ∧
        eq.holds (.string "É") (.text "É") = true) ∧
      eq.holds (.string " 1.0 ") (.number .one) = true ∧
      (¬Json.Comparable (.string "one") (.number .one) ∧
        ∀ c : Comparator, c.holds (.string "one") (.number .one) = false) := by
  have hnull : Json.Comparable .null (.number .zero) := .inr ⟨rfl, rfl⟩
  have hone : ¬Json.BothTexts (.string " 1.0 ") (.number .one) := nofun
  have hname : ¬Json.Comparable (.string "one") (.number .one) := by
    rintro (⟨s, t, -, ⟨⟩⟩ | ⟨h, -⟩)
    exact absurd h (by decide +kernel)
  have htexts : Json.Comparable (.string "É") (.text "é") := .inl ⟨_, _, rfl, rfl⟩
  refine ⟨⟨hnull, ?_, ?_, ?_⟩, ⟨?_, ?_, ?_⟩, ?_, hname, ?_⟩
  · rw [((holds_consistent .null (.number .zero)).2.1 hnull).2.1]
    rfl
  · rw [((holds_consistent .null (.number .zero)).2.1 hnull).2.2]
    rfl
  · exact (holds_consistent .null (.number .zero)).2.2.1 rfl
  · rw [((holds_consistent _ _).2.1 htexts).2.1]
    decide +kernel
  · exact ((holds_consistent _ _).2.2.2.1 "É" "é" rfl rfl).1.2 (by decide +kernel)
  · exact ((holds_consistent _ _).2.2.2.1 "É" "É" rfl rfl).2 (by decide +kernel)
  · rw [(holds_consistent (.string " 1.0 ") (.number .one)).2.2.2.2 rfl hone]
    decide +kernel
  · exact (holds_consistent (.string "one") (.number .one)).1 hname

end Comparator

end Rulebook
