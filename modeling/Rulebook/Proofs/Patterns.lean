import Mathlib.Data.List.TakeWhile
import Mathlib.Tactic.SplitIfs
import Rulebook.Proofs.Characters
import Rulebook.Telemetry.Pattern

/-!
# Reading patterns

Each reader of a part of a pattern leaves a shorter text, so as many steps as there are characters
read a pattern to its end. A text in which each mark has a backslash is a pattern.
-/

namespace Rulebook.Pattern

open Text

/-! ## What is left -/

/-- Skipping blanks and comments leaves no more than there was. -/
theorem Mode.length_skip_le (m : Mode) (inComment : Bool) (cs : List Char) :
    (m.skip inComment cs).length ≤ cs.length := by
  induction cs generalizing inComment with
  | nil => exact Nat.le_refl _
  | cons c cs ih =>
    rw [Mode.skip]
    split_ifs
    · exact Nat.le_refl _
    · exact Nat.le_succ_of_le (ih _)
    · exact Nat.le_succ_of_le (ih _)
    · exact Nat.le_succ_of_le (ih _)
    · exact Nat.le_refl _

/-- What is behind the first character that is not skipped is shorter. -/
theorem Mode.length_lt_of_next {m : Mode} {c : Char} {cs rest : List Char}
    (h : m.next cs = c :: rest) : rest.length < cs.length := by
  have hle := m.length_skip_le false cs
  rw [show m.skip false cs = c :: rest from h] at hle
  exact hle

/-- A code leaves no more than there was. -/
theorem length_le_of_hexCode? {m : Mode} {digits value code : Nat} {cs rest : List Char}
    (h : hexCode? m digits value cs = some (code, rest)) : rest.length ≤ cs.length := by
  induction digits generalizing value cs with
  | zero =>
    cases h
    exact Nat.le_refl _
  | succ digits ih =>
    rw [hexCode?] at h
    split at h
    · next hnext =>
      obtain ⟨d, -, h⟩ := Option.bind_eq_some_iff.1 h
      exact Nat.le_trans (ih h) (Mode.length_lt_of_next hnext).le
    · cases h

/-- A code that is a character leaves no more than there was. -/
theorem length_le_of_hexEscape? {m : Mode} {digits : Nat} {cs rest : List Char} {e : Escape}
    (h : hexEscape? m digits cs = some (e, rest)) : rest.length ≤ cs.length := by
  obtain ⟨⟨code, after⟩, hcode, h⟩ := Option.bind_eq_some_iff.1 h
  dsimp only at h
  split at h
  · cases h
    exact length_le_of_hexCode? hcode
  · cases h

/-- An escape takes at least one character. -/
theorem length_lt_of_escape? {m : Mode} {cs rest : List Char} {e : Escape}
    (h : escape? m cs = some (e, rest)) : rest.length < cs.length := by
  cases cs with
  | nil => cases h
  | cons c cs =>
    refine Nat.lt_succ_of_le ?_
    unfold escape? at h
    dsimp only at h
    split_ifs at h
    · exact length_le_of_hexEscape? h
    · exact length_le_of_hexEscape? h
    · exact length_le_of_hexEscape? h
    · split at h
      · next hnext =>
        split at h
        · cases h
          exact (Mode.length_lt_of_next hnext).le
        · cases h
      · cases h
    · cases h
      exact Nat.le_refl _
    · cases h
      exact Nat.le_refl _
    · cases h
      exact Nat.le_refl _
    · cases h
      exact Nat.le_refl _
    · split at h
      all_goals try split at h
      all_goals cases h
      all_goals exact Nat.le_refl _

/-- The name of a class takes at least one character. -/
theorem length_lt_of_className? {cs rest : List Char} (h : className? cs = some rest) :
    rest.length < cs.length := by
  unfold className? at h
  dsimp only at h
  split at h
  · next hafter =>
    obtain ⟨-, h⟩ := Option.ite_none_right_eq_some.1 h
    cases h
    exact Nat.lt_of_succ_lt (length_lt_of_drop hafter)
  · cases h

/-- A named class takes at least one character. -/
theorem length_lt_of_namedClass? {cs rest : List Char} (h : namedClass? cs = some rest) :
    rest.length < cs.length := by
  unfold namedClass? at h
  split at h
  · exact Nat.lt_succ_of_lt (Nat.lt_succ_of_lt (length_lt_of_className? h))
  · exact Nat.lt_succ_of_lt (length_lt_of_className? h)
  · cases h

/-- The marks at the start of a class leave no more than there was. -/
theorem length_classMarks_le (cs : List Char) : (classMarks cs).length ≤ cs.length := by
  unfold classMarks
  split
  · exact Nat.le_succ _
  · exact (List.dropWhile_suffix _).length_le

/-- The start of a class leaves no more than there was. -/
theorem length_le_of_classStart? {m : Mode} {cs rest : List Char}
    (h : classStart? m cs = some rest) : rest.length ≤ cs.length := by
  obtain ⟨-, h⟩ := Option.ite_none_left_eq_some.1 h
  cases h
  refine Nat.le_trans (length_classMarks_le _) ?_
  split
  · next hnext => exact Nat.le_trans (m.length_skip_le _ _) (Mode.length_lt_of_next hnext).le
  · exact m.length_skip_le _ _

/-- A member of a class takes at least one character. -/
theorem length_lt_of_member? {m : Mode} {cs rest : List Char} {e : Escape}
    (h : member? m cs = some (e, rest)) : rest.length < cs.length := by
  unfold member? at h
  split at h
  · cases h
  · exact Nat.lt_succ_of_lt (length_lt_of_escape? (Option.filter_eq_some_iff.1 h).1)
  · obtain ⟨-, h⟩ := Option.ite_none_right_eq_some.1 h
    cases h
    exact Nat.lt_succ_self _

/-- A member of a class or a range of them takes at least one character. -/
theorem length_lt_of_range? {m : Mode} {cs rest : List Char} (h : range? m cs = some rest) :
    rest.length < cs.length := by
  obtain ⟨⟨first, after⟩, hfirst, h⟩ := Option.bind_eq_some_iff.1 h
  have hlt := length_lt_of_member? hfirst
  have hle := m.length_skip_le false after
  dsimp only at h
  split at h
  · next more hmore =>
    have hlt' := Mode.length_lt_of_next hmore
    split at h
    · cases h
    · next c rest' hrest =>
      have hlt'' := Mode.length_lt_of_next hrest
      split at h
      · cases h
        simp only [List.length_cons]
        omega
      · obtain ⟨⟨second, last⟩, hsecond, hrange⟩ := Option.bind_eq_some_iff.1 h
        have hlt''' := length_lt_of_member? hsecond
        split at hrange
        · next hpair =>
          cases hpair
          obtain ⟨-, hrange⟩ := Option.ite_none_right_eq_some.1 hrange
          cases hrange
          simp only [List.length_cons] at hlt'''
          omega
        · cases hrange
  · cases h
    exact Nat.lt_of_le_of_lt hle hlt

/-- A class takes at least one character. -/
theorem length_lt_of_class? {m : Mode} {steps outer : Nat} {cs rest : List Char}
    (h : class? m steps outer cs = some rest) : rest.length < cs.length := by
  induction steps generalizing outer cs with
  | zero => cases h
  | succ steps ih =>
    unfold class? at h
    split at h
    · cases h
    · next hnext =>
      have hlt := Mode.length_lt_of_next hnext
      split at h
      · next hnamed => exact ((ih h).trans (length_lt_of_namedClass? hnamed)).trans hlt
      · obtain ⟨after, hstart, h⟩ := Option.bind_eq_some_iff.1 h
        exact ((ih h).trans_le (length_le_of_classStart? hstart)).trans hlt
    · next hnext =>
      have hlt := Mode.length_lt_of_next hnext
      split at h
      · cases h
        exact hlt
      · exact (ih h).trans hlt
    · next c after _ _ hnext =>
      have hlt := Mode.length_lt_of_next hnext
      split at h
      · refine (ih h).trans (Nat.lt_of_le_of_lt ?_ hlt)
        exact (List.drop_suffix 1 after).length_le
      · obtain ⟨last, hrange, h⟩ := Option.bind_eq_some_iff.1 h
        exact (ih h).trans_le ((Nat.lt_succ_iff.1 (length_lt_of_range? hrange)).trans hlt.le)

/-- The name of a group leaves no more than there was. -/
theorem length_le_of_named? {m : Mode} {cs rest : List Char} {o : Opening}
    (h : named? m cs = some (o, rest)) : rest.length ≤ cs.length := by
  unfold named? at h
  dsimp only at h
  split at h
  · next hafter =>
    obtain ⟨-, h⟩ := Option.ite_none_right_eq_some.1 h
    cases h
    exact (length_lt_of_drop hafter).le
  · cases h

/-- How a group opens leaves no more than there was. -/
theorem length_le_of_opening? {m : Mode} {cs rest : List Char} {o : Opening}
    (h : opening? m cs = some (o, rest)) : rest.length ≤ cs.length := by
  unfold opening? at h
  split at h
  · next hnext =>
    have hlt := Mode.length_lt_of_next hnext
    simp only [List.length_cons] at hlt
    exact Nat.le_trans (length_le_of_named? h) (by omega)
  · next hnext =>
    have hlt := Mode.length_lt_of_next hnext
    simp only [List.length_cons] at hlt
    exact Nat.le_trans (length_le_of_named? h) (by omega)
  · next inner _ _ hnext =>
    have hlt := Mode.length_lt_of_next hnext
    obtain ⟨mode, -, h⟩ := Option.bind_eq_some_iff.1 h
    split at h
    · next hafter =>
      cases h
      exact ((length_lt_of_drop hafter).trans hlt).le
    · next hafter =>
      obtain ⟨-, h⟩ := Option.ite_none_left_eq_some.1 h
      cases h
      exact ((length_lt_of_drop hafter).trans hlt).le
    · cases h
  · cases h
    exact m.length_skip_le false cs

/-! ## Enough steps -/

/-- As many steps as characters read a class to its end. -/
theorem class?_eq {m : Mode} {steps steps' outer : Nat} {cs : List Char}
    (h : cs.length < steps) (h' : cs.length < steps') :
    class? m steps outer cs = class? m steps' outer cs := by
  induction steps generalizing steps' outer cs with
  | zero => exact absurd h (Nat.not_lt_zero _)
  | succ steps ih =>
    obtain ⟨steps', rfl⟩ := Nat.exists_eq_add_of_lt (Nat.zero_lt_of_lt h')
    simp only [Nat.zero_add] at h' ⊢
    unfold class?
    split
    · rfl
    · next hnext =>
      have hlt := Mode.length_lt_of_next hnext
      split
      · next hnamed =>
        have := length_lt_of_namedClass? hnamed
        exact ih (by omega) (by omega)
      · refine Option.bind_congr fun after hstart => ?_
        have := length_le_of_classStart? hstart
        exact ih (by omega) (by omega)
    · next hnext =>
      have hlt := Mode.length_lt_of_next hnext
      split
      · rfl
      · exact ih (by omega) (by omega)
    · next c after _ _ hnext =>
      have hlt := Mode.length_lt_of_next hnext
      split
      · have := (List.drop_suffix 1 after).length_le
        exact ih (by omega) (by omega)
      · refine Option.bind_congr fun last hrange => ?_
        have := Nat.lt_succ_iff.1 (length_lt_of_range? hrange)
        exact ih (by omega) (by omega)

/-- As many steps as characters read a pattern to its end. -/
theorem goesOn_eq {steps steps' : Nat} {p : Place} {cs : List Char} (h : cs.length < steps)
    (h' : cs.length < steps') : goesOn steps p cs = goesOn steps' p cs := by
  induction steps generalizing steps' p cs with
  | zero => exact absurd h (Nat.not_lt_zero _)
  | succ steps ih =>
    obtain ⟨steps', rfl⟩ := Nat.exists_eq_add_of_lt (Nat.zero_lt_of_lt h')
    simp only [Nat.zero_add] at h' ⊢
    -- What is left is shorter in every case, so the hypothesis is used through this fact only.
    have hrest {q : Place} {rest : List Char} (hlt : rest.length < cs.length) :
        goesOn steps q rest = goesOn steps' q rest := ih (by omega) (by omega)
    unfold goesOn
    dsimp only
    split
    · rfl
    · next hnext =>
      have hlt := Mode.length_lt_of_next hnext
      split
      · rfl
      · next hopens => exact hrest ((length_le_of_opening? hopens).trans_lt hlt)
      · next hopens =>
        split
        · rfl
        · exact hrest ((length_le_of_opening? hopens).trans_lt hlt)
    · next hnext =>
      split
      · rfl
      · exact hrest (Mode.length_lt_of_next hnext)
    · next hnext => exact hrest (Mode.length_lt_of_next hnext)
    · next inner hnext =>
      have hlt := Mode.length_lt_of_next hnext
      have hclass : (classStart? p.mode inner).bind (class? p.mode steps 0) =
          (classStart? p.mode inner).bind (class? p.mode steps' 0) := by
        refine Option.bind_congr fun after hstart => ?_
        have := length_le_of_classStart? hstart
        exact class?_eq (by omega) (by omega)
      rw [hclass]
      split
      · next hafter =>
        obtain ⟨after, hstart, hafter⟩ := Option.bind_eq_some_iff.1 hafter
        have := length_le_of_classStart? hstart
        have := length_lt_of_class? hafter
        exact hrest (by omega)
      · rfl
    · next hnext =>
      split
      · next hescape =>
        exact hrest ((length_lt_of_escape? hescape).trans (Mode.length_lt_of_next hnext))
      · rfl
    · rfl
    · next hnext => rw [hrest (Mode.length_lt_of_next hnext)]
    · next c after _ _ _ _ _ _ _ hnext =>
      have hlt := Mode.length_lt_of_next hnext
      have := (List.drop_suffix 1 after).length_le
      split
      · congr 1
        split
        · exact hrest (by omega)
        · exact hrest hlt
      · exact hrest hlt

/-- Any number of steps beyond the characters of a text says whether it is a pattern. -/
theorem isPattern_eq_goesOn {steps : Nat} {cs : List Char} (h : cs.length < steps) :
    isPattern cs = goesOn steps ⟨.start, [], [], false⟩ cs :=
  goesOn_eq (Nat.lt_succ_self _) h

/-! ## Texts as patterns -/

/-- The marks that do not stand for themselves outside classes. -/
def marks : List Char := ['\\', '.', '+', '*', '?', '(', ')', '|', '[', '\x7b']

/-- A text with a backslash in front of each mark. -/
def escaped : List Char → List Char
  | [] => []
  | c :: cs => if c ∈ marks then '\\' :: c :: escaped cs else c :: escaped cs

/-- Without blanks and comments nothing is skipped. -/
theorem Mode.next_eq {m : Mode} (h : m.verbose = false) (cs : List Char) : m.next cs = cs := by
  cases cs with
  | nil => rfl
  | cons c cs => rw [Mode.next, Mode.skip, h, if_pos (by rfl)]

/-- A mark behind a backslash stands for itself. -/
theorem escape?_of_mem_marks {m : Mode} {c : Char} (h : c ∈ marks) (cs : List Char) :
    escape? m (c :: cs) = some (.literal c, cs) := by
  simp only [marks, List.mem_cons, List.not_mem_nil, or_false] at h
  obtain rfl | rfl | rfl | rfl | rfl | rfl | rfl | rfl | rfl | rfl := h
  all_goals rfl

/-- A pattern that skips nothing goes on behind a backslash and a mark. -/
theorem goesOn_mark {steps : Nat} {p : Place} {c : Char} {cs : List Char}
    (hmode : p.mode.verbose = false) (h : c ∈ marks) :
    goesOn (steps + 1) p ('\\' :: c :: cs) = goesOn steps { p with isRepeatable := true } cs := by
  simp only [goesOn, Mode.next_eq hmode, escape?_of_mem_marks h]

/-- A pattern that skips nothing goes on behind any character that is not a mark. -/
theorem goesOn_cons {steps : Nat} {p : Place} {c : Char} {cs : List Char}
    (hmode : p.mode.verbose = false) (h : c ∉ marks) :
    goesOn (steps + 1) p (c :: cs) = goesOn steps { p with isRepeatable := true } cs := by
  simp only [marks, List.mem_cons, List.not_mem_nil, or_false, not_or] at h
  rw [goesOn, Mode.next_eq hmode]
  dsimp only
  split
  all_goals grind

/-- A pattern outside groups ends behind a text in which each mark has a backslash. -/
theorem goesOn_escaped {steps : Nat} {p : Place} {cs : List Char} (hmode : p.mode.verbose = false)
    (hgroups : p.outer = []) (h : (escaped cs).length < steps) :
    goesOn steps p (escaped cs) = true := by
  induction cs generalizing steps p with
  | nil =>
    obtain ⟨steps, rfl⟩ := Nat.exists_eq_add_of_lt h
    rw [escaped, goesOn, Mode.next_eq hmode]
    dsimp only
    rw [hgroups]
    rfl
  | cons c cs ih =>
    obtain ⟨steps, rfl⟩ := Nat.exists_eq_add_of_lt (Nat.zero_lt_of_lt h)
    rw [escaped] at h ⊢
    split at h
    · next hmark =>
      rw [if_pos hmark, Nat.zero_add, goesOn_mark hmode hmark]
      exact ih hmode hgroups (by simp only [List.length_cons] at h; omega)
    · next hmark =>
      rw [if_neg hmark, Nat.zero_add, goesOn_cons hmode hmark]
      exact ih hmode hgroups (by simp only [List.length_cons] at h; omega)

/-- Every text can be looked for: with a backslash in front of each mark it is a pattern. -/
theorem isPattern_escaped (cs : List Char) : isPattern (escaped cs) = true :=
  goesOn_escaped rfl rfl (Nat.lt_succ_self _)

end Rulebook.Pattern
