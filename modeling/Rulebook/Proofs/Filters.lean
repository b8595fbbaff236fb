import Mathlib.Data.List.Induction
import Rulebook.Telemetry.Filter

/-!
# What a filter keeps

How specific directives are is a transitive order, in which two directives compare as equal if they
name the same. So a list in that order stays in order when a directive is added, and what is looked
up in it is what was added last (`Directive.find?_insert`).

A filter therefore keeps, of the directives that it was given, the last one for each thing that is
named (`Filter.Keeps`), whatever their number and their order, and its level is no less verbose than
any of theirs. The filter that a text denotes was given the directives of the text's items.
-/

namespace Rulebook

open Std (OrientedCmp TransCmp LawfulEqCmp)

/-! ## The order of directives -/

section Orders

variable {α β : Type} {cmp : α → α → Ordering}

/-- The order of things by that of a part of them. -/
def compareBy (cmp : α → α → Ordering) (part : β → α) (a b : β) : Ordering := cmp (part a) (part b)

/-- Things compare the other way around alike if their parts do. -/
instance compareBy_orientedCmp [OrientedCmp cmp] {part : β → α} :
    OrientedCmp (compareBy cmp part) where
  eq_swap {a b} := (OrientedCmp.eq_swap : cmp (part a) (part b) = (cmp (part b) (part a)).swap)

/-- The order of things by a part of them is transitive if that of the parts is. -/
instance compareBy_transCmp [TransCmp cmp] {part : β → α} : TransCmp (compareBy cmp part) where
  toOrientedCmp := compareBy_orientedCmp
  isLE_trans {a _ c} hab hbc :=
    (TransCmp.isLE_trans hab hbc : (cmp (part a) (part c)).isLE = true)

/-- Things that may be absent compare the other way around alike if the things do. -/
instance compareOptions_orientedCmp [OrientedCmp cmp] : OrientedCmp (compareOptions cmp) where
  eq_swap {a b} :=
    match a, b with
    | none, none => rfl
    | none, some _ => rfl
    | some _, none => rfl
    | some a, some b => (OrientedCmp.eq_swap : cmp a b = (cmp b a).swap)

/-- The order of things that may be absent is transitive if that of the things is. -/
instance compareOptions_transCmp [TransCmp cmp] : TransCmp (compareOptions cmp) where
  toOrientedCmp := compareOptions_orientedCmp
  isLE_trans {a b c} hab hbc :=
    match a, b, c, hab, hbc with
    | none, _, none, _, _ => rfl
    | none, _, some _, _, _ => rfl
    | some _, some _, some _, hab, hbc =>
      (TransCmp.isLE_trans hab hbc : (cmp _ _).isLE = true)

/-- Things that may be absent compare as equal if they are equal, where that is so of the things. -/
theorem compareOptions_eq_eq_iff [LawfulEqCmp cmp] {a b : Option α} :
    compareOptions cmp a b = .eq ↔ a = b := by
  cases a <;> cases b <;> simp [compareOptions]

/-- Of two things that compare as equal both may be absent, but not one. -/
theorem isSome_eq_of_compareOptions {a b : Option α} (h : compareOptions cmp a b = .eq) :
    a.isSome = b.isSome := by
  cases a <;> cases b <;> first | rfl | cases h

end Orders

namespace FieldValue

/-- The place of a value among those of its kind; a pattern is placed by its text. -/
def place : FieldValue → Int × Int
  | .flag b => (b.toNat, 0)
  | .real x => x.rank.getD (0, 0)
  | .natural n => (n, 0)
  | .integer i => (i, 0)
  | .pattern _ => (0, 0)

/-- The text of a pattern. -/
def patternText : FieldValue → String
  | .pattern s => s
  | _ => ""

/-- Natural numbers are ordered as the integers that they are. -/
theorem compare_natCast (a b : Nat) : Ord.compare (a : Int) b = Ord.compare a b := by
  simp only [Ord.compare, compareOfLessAndEq, Int.ofNat_lt, Int.natCast_inj]

/-- Values are ordered by their kinds, and then by their places among those of their kind. -/
theorem compare_eq : FieldValue.compare = compareLex (compareOn kindRank)
    (compareLex (compareOn patternText)
      (compareLex (compareOn fun v => v.place.1) (compareOn fun v => v.place.2))) := by
  funext a b
  -- A NaN is of a kind of its own. Of two kinds the numbers differ, and the rest does not matter.
  obtain a | (_ | _ | _) | a | a | a := a <;> obtain b | (_ | _ | _) | b | b | b := b
  case flag.flag => cases a <;> cases b <;> rfl
  case natural.natural =>
    simp [compare, compareLex, compareOn, kindRank, place, patternText, compare_natCast]
  case integer.integer => simp [compare, compareLex, compareOn, kindRank, place, patternText]
  case pattern.pattern => simp [compare, compareLex, compareOn, kindRank, place, patternText]
  all_goals rfl

/-- The order of values is transitive. -/
instance compare_transCmp : TransCmp FieldValue.compare := by
  rw [compare_eq]
  infer_instance

/-- Two reals compare as equal if they are numerically equal, or both a NaN. -/
theorem compare_real_eq_eq_iff {x y : Double} : (FieldValue.real x).compare (.real y) = .eq ↔
    x.numEq y = true ∨ x = .nan ∧ y = .nan := by
  rw [Double.numEq, beq_iff_eq, compare]
  cases x <;> cases y <;> simp [Double.compare?, Double.rank, kindRank, Double.isNaN]

/-- Two values compare as equal if they are the same, or reals that are numerically equal, as the
two zeros are. -/
theorem compare_eq_eq_iff {a b : FieldValue} : a.compare b = .eq ↔
    a = b ∨ ∃ x y, a = .real x ∧ b = .real y ∧ x.numEq y = true := by
  constructor
  · intro h
    have hkind : a.kindRank = b.kindRank := by
      rw [compare_eq, compareLex_eq_eq] at h
      exact LawfulEqCmp.eq_of_compare h.1
    obtain a | x | a | a | a := a <;> obtain b | y | b | b | b := b
    case real.real =>
      obtain hequal | ⟨rfl, rfl⟩ := compare_real_eq_eq_iff.1 h
      · exact .inr ⟨x, y, rfl, rfl, hequal⟩
      · exact .inl rfl
    case flag.flag =>
      cases a <;> cases b <;> first | exact .inl rfl | cases h
    case natural.natural =>
      change Ord.compare a b = .eq at h
      exact .inl (congrArg natural (LawfulEqCmp.eq_of_compare h))
    case integer.integer =>
      change Ord.compare a b = .eq at h
      exact .inl (congrArg integer (LawfulEqCmp.eq_of_compare h))
    case pattern.pattern =>
      change Ord.compare a b = .eq at h
      exact .inl (congrArg pattern (LawfulEqCmp.eq_of_compare h))
    all_goals
      unfold kindRank at hkind
      grind
  · rintro (rfl | ⟨x, y, rfl, rfl, h⟩)
    · exact Std.ReflCmp.compare_self
    · exact compare_real_eq_eq_iff.2 (.inl h)

end FieldValue

namespace FieldTest

/-- Tests are ordered by whether they have a value, by their names and by their values. -/
theorem compare_eq : FieldTest.compare =
    compareLex (compareOn fun t : FieldTest => t.value.isSome.toNat)
      (compareLex (compareOn name) (compareBy (compareOptions FieldValue.compare) value)) := rfl

/-- The order of tests is transitive. -/
instance compare_transCmp : TransCmp FieldTest.compare := by
  rw [compare_eq]
  infer_instance

end FieldTest

namespace Directive

/-- How specific two directives are is compared step by step. -/
theorem compareSpecific_eq : compareSpecific =
    compareLex (compareBy (compareOptions compare) fun d => d.target.map (·.utf8ByteSize))
      (compareLex (compareOn fun d : Directive => d.span.isSome.toNat)
        (compareLex (compareOn fun d : Directive => d.field.isSome.toNat)
          (compareLex (compareBy (compareOptions compare) target)
            (compareLex (compareBy (compareOptions compare) span)
              (compareBy (compareOptions FieldTest.compare) field))))) := rfl

/-- The order of directives is transitive. -/
instance compareSpecific_transCmp : TransCmp compareSpecific := by
  rw [compareSpecific_eq]
  infer_instance

/-- Two directives that name the same; the later one of them replaces the other. -/
def NamesSame (d e : Directive) : Prop := d.compareSpecific e = .eq

instance (d e : Directive) : Decidable (d.NamesSame e) := inferInstanceAs (Decidable (_ = _))

/-- Two directives name the same if their targets and spans are the same and their fields, if they
have any, have one name and values that compare as equal. -/
theorem namesSame_iff {d e : Directive} : d.NamesSame e ↔ d.target = e.target ∧ d.span = e.span ∧
    compareOptions FieldTest.compare d.field e.field = .eq := by
  simp only [NamesSame, compareSpecific_eq, compareLex_eq_eq, compareBy, compareOn,
    compareOptions_eq_eq_iff, Std.compare_eq_iff_eq]
  constructor
  · rintro ⟨-, -, -, htarget, hspan, hfield⟩
    exact ⟨htarget, hspan, hfield⟩
  · rintro ⟨htarget, hspan, hfield⟩
    have hsome : d.field.isSome = e.field.isSome := isSome_eq_of_compareOptions hfield
    exact ⟨by rw [htarget], by rw [hspan], by rw [hsome], htarget, hspan, hfield⟩

/-- Two directives that name the same are both dynamic or neither is. -/
theorem NamesSame.isDynamic_eq {d e : Directive} (h : d.NamesSame e) :
    d.isDynamic = e.isDynamic := by
  obtain ⟨-, hspan, hfield⟩ := namesSame_iff.1 h
  rw [isDynamic, isDynamic, hspan, isSome_eq_of_compareOptions hfield]

/-- Two directives that name the same are both static or neither is. -/
theorem NamesSame.isStatic_eq {d e : Directive} (h : d.NamesSame e) : d.isStatic = e.isStatic := by
  obtain ⟨-, hspan, hfield⟩ := namesSame_iff.1 h
  have hvalue : d.testsValue = e.testsValue := by
    unfold testsValue
    cases hd : d.field <;> cases he : e.field <;> rw [hd, he] at hfield
    case none.some => cases hfield
    case some.none => cases hfield
    case some.some a b =>
      change FieldTest.compare a b = .eq at hfield
      rw [FieldTest.compare_eq, compareLex_eq_eq] at hfield
      have hnumber : a.value.isSome.toNat = b.value.isSome.toNat :=
        LawfulEqCmp.eq_of_compare hfield.1
      cases ha : a.value <;> cases hb : b.value <;> simp_all
  rw [isStatic, isStatic, hspan, hvalue]

/-! ## Adding a directive -/

/-- The directives of a list name different things, the more specific ones first. -/
def Descending (ds : List Directive) : Prop := ds.Pairwise fun d e => d.compareSpecific e = .gt

/-- Nothing else is added. -/
theorem eq_or_mem_of_mem_insert {d e : Directive} {ds : List Directive} (h : e ∈ d.insert ds) :
    e = d ∨ e ∈ ds := by
  induction ds with
  | nil => exact .inl (List.mem_singleton.1 h)
  | cons f ds ih =>
    rw [insert] at h
    split at h
    · exact List.mem_cons.1 h
    · exact (List.mem_cons.1 h).imp_right (List.mem_cons_of_mem f)
    · obtain rfl | hrest := List.mem_cons.1 h
      · exact .inr List.mem_cons_self
      · exact (ih hrest).imp_right (List.mem_cons_of_mem f)

/-- A directive is added in its place. -/
theorem Descending.insert {ds : List Directive} (h : Descending ds) (d : Directive) :
    Descending (d.insert ds) := by
  induction ds with
  | nil => exact List.pairwise_singleton _ d
  | cons f ds ih =>
    obtain ⟨hfirst, hrest⟩ := List.pairwise_cons.1 h
    rw [Directive.insert]
    split
    · next hgt =>
      refine List.pairwise_cons.2 ⟨fun e he => ?_, h⟩
      obtain rfl | he := List.mem_cons.1 he
      · exact hgt
      · exact TransCmp.gt_trans hgt (hfirst e he)
    · next heq =>
      -- It takes the place of one that names the same, to which all others compare alike.
      refine List.pairwise_cons.2 ⟨fun e he => ?_, hrest⟩
      rw [TransCmp.congr_left heq]
      exact hfirst e he
    · next hlt =>
      refine List.pairwise_cons.2 ⟨fun e he => ?_, ih hrest⟩
      obtain rfl | he := eq_or_mem_of_mem_insert he
      · exact OrientedCmp.gt_of_lt hlt
      · exact hfirst e he

/-- What names the same as one of two that name the same names the same as the other. -/
theorem namesSame_congr {d e f : Directive} (h : d.NamesSame f) :
    e.NamesSame d ↔ e.NamesSame f := by
  rw [NamesSame, NamesSame, TransCmp.congr_right h]

/-- Added, a directive is the one for what it names; for all else it changes nothing. -/
theorem find?_insert (d e : Directive) (ds : List Directive) :
    (d.insert ds).find? (e.NamesSame ·) =
      if e.NamesSame d then some d else ds.find? (e.NamesSame ·) := by
  induction ds with
  | nil => by_cases h : e.NamesSame d <;> simp [insert, h]
  | cons f ds ih =>
    rw [insert]
    split
    · by_cases h : e.NamesSame d <;> simp [List.find?_cons, h]
    · next heq =>
      have hsame : e.NamesSame d ↔ e.NamesSame f := namesSame_congr heq
      by_cases h : e.NamesSame f <;> simp [hsame, h]
    · next hlt =>
      by_cases h : e.NamesSame f
      -- The directive goes behind `f`, so what `f` is found for is not what the directive names.
      · have hother : ¬e.NamesSame d := by
          intro hd
          have hsame : d.NamesSame f := (namesSame_congr h).1 (OrientedCmp.eq_symm hd)
          rw [NamesSame, hlt] at hsame
          cases hsame
        simp [h, hother]
      · simp [h, ih]

/-- The directives of a list in order are those that are found for what they name themselves. -/
theorem Descending.find?_eq_some_iff {ds : List Directive} (h : Descending ds) {d : Directive} :
    ds.find? (d.NamesSame ·) = some d ↔ d ∈ ds := by
  refine ⟨List.mem_of_find?_eq_some, fun hd => ?_⟩
  have hself : d.NamesSame d := Std.ReflCmp.compare_self
  induction ds with
  | nil => cases hd
  | cons f ds ih =>
    obtain ⟨hfirst, hrest⟩ := List.pairwise_cons.1 h
    obtain rfl | hd := List.mem_cons.1 hd
    · simp [hself]
    · have hother : ¬d.NamesSame f := by
        intro hsame
        have hequal := OrientedCmp.eq_symm hsame
        rw [hfirst d hd] at hequal
        cases hequal
      simp [hother, ih hrest hd]

/-- Of a list in order two directives that name the same are one. -/
theorem Descending.eq_of_namesSame {ds : List Directive} (h : Descending ds) {d e : Directive}
    (hd : d ∈ ds) (he : e ∈ ds) (hsame : d.NamesSame e) : d = e := by
  have hfound := h.find?_eq_some_iff.2 hd
  have hcongr : (fun x => decide (d.NamesSame x)) = fun x => decide (e.NamesSame x) := by
    funext x
    have hx : d.compareSpecific x = e.compareSpecific x := TransCmp.congr_left hsame
    exact decide_eq_decide.2 (by rw [NamesSame, NamesSame, hx])
  rw [hcongr, h.find?_eq_some_iff.2 he] at hfound
  exact (Option.some.inj hfound).symm

/-- Two lists in order with the same directives are the same. -/
theorem Descending.eq_of_mem_iff {ds es : List Directive} (hds : Descending ds)
    (hes : Descending es) (h : ∀ d, d ∈ ds ↔ d ∈ es) : ds = es := by
  have hnodup {l : List Directive} (hl : Descending l) : l.Nodup := by
    refine List.Pairwise.imp (fun {d e} hgt heq => ?_) hl
    have hself : d.compareSpecific d = .eq := Std.ReflCmp.compare_self
    rw [← heq, hself] at hgt
    cases hgt
  -- Without repetitions the two are permutations of each other, and the order allows only one.
  refine List.Perm.eq_of_pairwise (fun d e _ _ hde hed => ?_) hds hes
    ((List.perm_ext_iff_of_nodup (hnodup hds) (hnodup hes)).2 h)
  have hlt : d.compareSpecific e = .lt := OrientedCmp.lt_of_gt hed
  rw [hlt] at hde
  cases hde

end Directive

/-! ## Levels -/

namespace Level

/-- The levels from the least to the most verbose. -/
theorem rank_le_trace (l : Level) : l.rank ≤ trace.rank := by
  cases l <;> decide

/-- The more verbose one of two levels. -/
theorem rank_max (a b : Level) : (a.max b).rank = Max.max a.rank b.rank := by
  unfold max
  split <;> omega

end Level

namespace Filter

/-! ## Filters of directives -/

/-- The directive that is used of those that name the same as another: the one given last. -/
def lastOf (ds : List Directive) (isKept : Directive → Bool) (d : Directive) : Option Directive :=
  (ds.filter fun e => isKept e && d.NamesSame e).getLast?

/-- What a filter keeps of the directives that it was given. -/
structure Keeps (f : Filter) (ds : List Directive) : Prop where
  statics_descending : Directive.Descending f.statics
  dynamics_descending : Directive.Descending f.dynamics
  find?_statics : ∀ d : Directive, f.statics.find? (d.NamesSame ·) = lastOf ds (·.isStatic) d
  find?_dynamics : ∀ d : Directive, f.dynamics.find? (d.NamesSame ·) = lastOf ds (·.isDynamic) d
  le_most : ∀ d ∈ ds, d.level.rank ≤ f.most.rank
  most_mem : f.most = .off ∨ ∃ d ∈ ds, d.level = f.most

/-- The filter without directives was given none. -/
theorem keeps_empty : Keeps empty [] where
  statics_descending := .nil
  dynamics_descending := .nil
  find?_statics _ := rfl
  find?_dynamics _ := rfl
  le_most _ h := absurd h List.not_mem_nil
  most_mem := .inl rfl

/-- The last of the directives given with one more. -/
theorem lastOf_append (ds : List Directive) (isKept : Directive → Bool) (d e : Directive) :
    lastOf (ds ++ [e]) isKept d =
      if isKept e && d.NamesSame e then some e else lastOf ds isKept d := by
  unfold lastOf
  rw [List.filter_append, List.filter_cons, List.filter_nil]
  cases isKept e && decide (d.NamesSame e) with
  | false => rw [if_neg Bool.false_ne_true, if_neg Bool.false_ne_true, List.append_nil]
  | true => rw [if_pos rfl, if_pos rfl, List.getLast?_concat]

/-- A directive that is among those to keep, or not, is looked up as the last one given. -/
theorem find?_add {kept ds : List Directive} {isKept : Directive → Bool}
    (h : ∀ d : Directive, kept.find? (d.NamesSame ·) = lastOf ds isKept d) (d e : Directive) :
    (if isKept d then d.insert kept else kept).find? (e.NamesSame ·) =
      lastOf (ds ++ [d]) isKept e := by
  rw [lastOf_append, ← h]
  cases isKept d with
  | false => rfl
  | true =>
    rw [if_pos rfl, Directive.find?_insert]
    simp

/-- A directive that is added has been given last. -/
theorem Keeps.add {f : Filter} {ds : List Directive} (h : f.Keeps ds) (d : Directive) :
    (f.add d).Keeps (ds ++ [d]) where
  statics_descending := by
    unfold Filter.add
    dsimp only
    split
    · exact h.statics_descending.insert d
    · exact h.statics_descending
  dynamics_descending := by
    unfold Filter.add
    dsimp only
    split
    · exact h.dynamics_descending.insert d
    · exact h.dynamics_descending
  find?_statics e := find?_add h.find?_statics d e
  find?_dynamics e := find?_add h.find?_dynamics d e
  le_most e he := by
    change e.level.rank ≤ (f.most.max d.level).rank
    rw [Level.rank_max]
    obtain he | he := List.mem_append.1 he
    · exact Nat.le_trans (h.le_most e he) (Nat.le_max_left ..)
    · rw [List.mem_singleton.1 he]
      exact Nat.le_max_right ..
  most_mem := by
    change f.most.max d.level = .off ∨ ∃ e ∈ ds ++ [d], e.level = f.most.max d.level
    unfold Level.max
    split
    · exact .inr ⟨d, by simp, rfl⟩
    · exact h.most_mem.imp_right fun ⟨e, he, hlevel⟩ => ⟨e, List.mem_append_left _ he, hlevel⟩

/-- A filter keeps the directives that it was given one after the other. -/
theorem keeps_foldl (ds : List Directive) : (ds.foldl add empty).Keeps ds := by
  induction ds using List.reverseRecOn with
  | nil => exact keeps_empty
  | append_singleton ds d ih =>
    rw [List.foldl_append]
    exact ih.add d

/-- A filter has exactly the directives that none given later names the same as. -/
theorem Keeps.mem_iff {f : Filter} {ds : List Directive} (h : f.Keeps ds) (d : Directive) :
    (d ∈ f.statics ↔ lastOf ds (·.isStatic) d = some d) ∧
      (d ∈ f.dynamics ↔ lastOf ds (·.isDynamic) d = some d) := by
  rw [← h.find?_statics, ← h.find?_dynamics, h.statics_descending.find?_eq_some_iff,
    h.dynamics_descending.find?_eq_some_iff]
  exact ⟨Iff.rfl, Iff.rfl⟩

/-- A directive that is found was given, is kept, and names the same. -/
theorem mem_of_lastOf {ds : List Directive} {isKept : Directive → Bool} {d e : Directive}
    (h : lastOf ds isKept d = some e) : e ∈ ds ∧ isKept e = true ∧ d.NamesSame e := by
  simpa using List.mem_of_getLast? h

/-- A directive is found for what it names itself if no other one that is kept names the same. -/
theorem lastOf_eq_some_self {ds : List Directive} {isKept : Directive → Bool} {d : Directive}
    (hd : d ∈ ds) (hkept : isKept d = true)
    (hunique : ∀ e ∈ ds, isKept e = true → d.NamesSame e → d = e) :
    lastOf ds isKept d = some d := by
  have hself : d.NamesSame d := Std.ReflCmp.compare_self
  have hmem : d ∈ ds.filter fun e => isKept e && decide (d.NamesSame e) := by
    simp [hd, hkept, hself]
  have hlast := List.getLast?_eq_some_getLast (List.ne_nil_of_mem hmem)
  obtain ⟨he, hkept, hsame⟩ := mem_of_lastOf hlast
  rw [lastOf, hlast, ← hunique _ he hkept hsame]

/-- If a list in order has what is kept of the directives given, they are found for what they name
themselves. -/
theorem lastOf_eq_some_iff_mem {given kept : List Directive} {isKept : Directive → Bool}
    (hkept : Directive.Descending kept) (hmem : ∀ d, d ∈ kept ↔ d ∈ given ∧ isKept d = true)
    (d : Directive) : lastOf given isKept d = some d ↔ d ∈ kept := by
  refine ⟨fun hfound => ?_, fun hd => ?_⟩
  · obtain ⟨hgiven, hd, -⟩ := mem_of_lastOf hfound
    exact (hmem d).2 ⟨hgiven, hd⟩
  · obtain ⟨hgiven, hself⟩ := (hmem d).1 hd
    exact lastOf_eq_some_self hgiven hself fun e he hother hsame =>
      hkept.eq_of_namesSame hd ((hmem e).2 ⟨he, hother⟩) hsame

/-- What is found depends only on which of the directives that name the same are kept. -/
theorem lastOf_congr {isKept isKept' : Directive → Bool} {d : Directive}
    (h : ∀ e, d.NamesSame e → isKept e = isKept' e) (ds : List Directive) :
    lastOf ds isKept d = lastOf ds isKept' d := by
  unfold lastOf
  congr 2
  funext e
  by_cases he : d.NamesSame e
  · rw [h e he]
  · simp [he]

/-- Both lists of a filter have the directives of the other one that they can have. -/
theorem Keeps.mem_iff_mem_append {f : Filter} {ds : List Directive} (h : f.Keeps ds)
    (d : Directive) : (d ∈ f.statics ↔ d ∈ f.statics ++ f.dynamics ∧ d.isStatic = true) ∧
      (d ∈ f.dynamics ↔ d ∈ f.statics ++ f.dynamics ∧ d.isDynamic = true) := by
  obtain ⟨hstatics, hdynamics⟩ := h.mem_iff d
  have hboth (hstatic : d.isStatic = true) (hdynamic : d.isDynamic = true) :
      lastOf ds (·.isStatic) d = lastOf ds (·.isDynamic) d :=
    lastOf_congr (fun e he => by rw [← he.isStatic_eq, ← he.isDynamic_eq, hstatic, hdynamic]) ds
  constructor
  · refine ⟨fun hd => ⟨List.mem_append_left _ hd, (mem_of_lastOf (hstatics.1 hd)).2.1⟩, ?_⟩
    rintro ⟨hd, hstatic⟩
    refine (List.mem_append.1 hd).elim id fun hd => hstatics.2 ?_
    have hfound := hdynamics.1 hd
    rwa [hboth hstatic (mem_of_lastOf hfound).2.1]
  · refine ⟨fun hd => ⟨List.mem_append_right _ hd, (mem_of_lastOf (hdynamics.1 hd)).2.1⟩, ?_⟩
    rintro ⟨hd, hdynamic⟩
    refine (List.mem_append.1 hd).elim (fun hd => hdynamics.2 ?_) id
    have hfound := hstatics.1 hd
    rwa [← hboth (mem_of_lastOf hfound).2.1 hdynamic]

/-- The most verbose level of a filter is no less verbose than any of its directives. -/
theorem Keeps.rank_le_maxLevel {f : Filter} {ds : List Directive} (h : f.Keeps ds) :
    ∀ d ∈ f.statics ++ f.dynamics, d.level.rank ≤ f.maxLevel.rank := by
  intro d hd
  have hgiven : d ∈ ds := by
    obtain hd | hd := List.mem_append.1 hd
    · exact (mem_of_lastOf ((h.mem_iff d).1.1 hd)).1
    · exact (mem_of_lastOf ((h.mem_iff d).2.1 hd)).1
  unfold maxLevel
  split
  · exact d.level.rank_le_trace
  · exact h.le_most d hgiven

/-! ## Filters of texts -/

section MapM

variable {α β : Type} {g : α → Option β}

/-- A list is mapped whole if every item is. -/
theorem mapM_eq_some_iff {l : List α} {bs : List β} :
    l.mapM g = some bs ↔ l.map g = bs.map some := by
  induction l generalizing bs with
  | nil => cases bs <;> simp
  | cons a l ih => cases bs <;> simp [Option.bind_eq_some_iff, ih]

/-- A list is not mapped if one of its items is not. -/
theorem mapM_eq_none_iff {l : List α} : l.mapM g = none ↔ ∃ a ∈ l, g a = none := by
  induction l with
  | nil => simp
  | cons a l ih =>
    rw [List.mapM_cons]
    cases h : g a with
    | none => exact ⟨fun _ => ⟨a, List.mem_cons_self, h⟩, fun _ => rfl⟩
    | some b =>
      have hrest : (∃ x ∈ a :: l, g x = none) ↔ ∃ x ∈ l, g x = none := by simp [h]
      rw [hrest, ← ih]
      cases l.mapM g <;> simp

end MapM

/-- A text denotes no filter exactly if one of its items denotes no directive. -/
theorem read?_eq_none_iff (s : String) :
    read? s = none ↔ ∃ item ∈ items s, Directive.read? item = none := by
  rw [read?, Option.map_eq_none_iff, mapM_eq_none_iff]

/-- The filter of a text keeps the directives of the text's items. -/
theorem exists_keeps_of_read? {s : String} {f : Filter} (h : read? s = some f) :
    ∃ ds, (items s).map Directive.read? = ds.map some ∧ f.Keeps ds := by
  obtain ⟨ds, hds, rfl⟩ := Option.map_eq_some_iff.1 h
  exact ⟨ds, mapM_eq_some_iff.1 hds, keeps_foldl ds⟩

end Filter

end Rulebook
