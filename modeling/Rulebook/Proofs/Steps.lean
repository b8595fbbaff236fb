import Mathlib.Data.List.TakeWhile
import Rulebook.Proofs.Characters
import Rulebook.Settings.Toml.Document

/-!
# Steps of reading a TOML document

The readers of blanks, strings and keys take a number of steps. Each part that is read leaves a
shorter text, so as many steps as there are characters are enough: more of them read nothing else.
-/

namespace Rulebook.Toml

/-! ## Blanks and comments -/

/-- Blanks that are skipped leave no more than there was. -/
theorem length_skipSpaces_le (cs : List Char) : (skipSpaces cs).length ≤ cs.length :=
  (List.dropWhile_suffix _).length_le

/-- What is behind the first character after blanks is shorter. -/
theorem length_lt_of_skipSpaces {c : Char} {cs rest : List Char} (h : skipSpaces cs = c :: rest) :
    rest.length < cs.length := by
  have hle := length_skipSpaces_le cs
  rwa [h] at hle

/-- A line break takes at least one character. -/
theorem length_lt_of_afterBreak? {cs rest : List Char} (h : afterBreak? cs = some rest) :
    rest.length < cs.length := by
  unfold afterBreak? at h
  split at h
  · cases h
    exact Nat.lt_succ_self _
  · cases h
    exact Nat.lt_succ_of_lt (Nat.lt_succ_self _)
  · cases h

/-- A comment that is skipped leaves no more than there was. -/
theorem length_skipComment_le (cs : List Char) : (skipComment cs).length ≤ cs.length := by
  unfold skipComment
  split
  · exact Nat.le_succ_of_le (List.dropWhile_suffix _).length_le
  · exact Nat.le_refl _

/-- Blanks and a comment that are skipped leave no more than there was. -/
theorem length_skipComment_skipSpaces_le (cs : List Char) :
    (skipComment (skipSpaces cs)).length ≤ cs.length :=
  Nat.le_trans (length_skipComment_le _) (length_skipSpaces_le cs)

/-- The end of a line takes at least one character unless the text ends. -/
theorem length_lt_of_lineEnd? {cs rest : List Char} (hcs : cs ≠ [])
    (h : lineEnd? cs = some rest) : rest.length < cs.length := by
  have hle := length_skipComment_skipSpaces_le cs
  unfold lineEnd? at h
  split at h
  · cases h
    exact List.length_pos_iff.2 hcs
  · exact Nat.lt_of_lt_of_le (length_lt_of_afterBreak? h) hle

/-- The end of a line leaves no more than there was. -/
theorem length_le_of_lineEnd? {cs rest : List Char} (h : lineEnd? cs = some rest) :
    rest.length ≤ cs.length := by
  by_cases hcs : cs = []
  · subst hcs
    cases h
    exact Nat.le_refl _
  · exact (length_lt_of_lineEnd? hcs h).le

/-- A gap that is skipped leaves no more than there was. -/
theorem length_skipGap_le (steps : Nat) (cs : List Char) :
    (skipGap steps cs).length ≤ cs.length := by
  induction steps generalizing cs with
  | zero => exact Nat.le_refl _
  | succ steps ih =>
    have hle := length_skipComment_skipSpaces_le cs
    rw [skipGap]
    split
    · next hbreak =>
      exact Nat.le_trans (ih _) (Nat.le_trans (length_lt_of_afterBreak? hbreak).le hle)
    · exact hle

/-- What is behind the first character after a gap is shorter. -/
theorem length_lt_of_skipGap {steps : Nat} {c : Char} {cs rest : List Char}
    (h : skipGap steps cs = c :: rest) : rest.length < cs.length := by
  have hle := length_skipGap_le steps cs
  rwa [h] at hle

/-- As many steps as characters skip a gap to its end. -/
theorem skipGap_eq {steps steps' : Nat} {cs : List Char} (h : cs.length ≤ steps)
    (h' : cs.length ≤ steps') : skipGap steps cs = skipGap steps' cs := by
  induction steps generalizing steps' cs with
  | zero =>
    rw [List.length_eq_zero_iff.1 (Nat.le_zero.1 h)]
    cases steps' <;> rfl
  | succ steps ih =>
    cases steps' with
    | zero =>
      rw [List.length_eq_zero_iff.1 (Nat.le_zero.1 h')]
      rfl
    | succ steps' =>
      have hle := length_skipComment_skipSpaces_le cs
      rw [skipGap, skipGap]
      split
      · next hbreak =>
        have := length_lt_of_afterBreak? hbreak
        exact ih (by omega) (by omega)
      · rfl

/-- Blank lines that are skipped leave no more than there was. -/
theorem length_skipBlankLines_le (cs : List Char) : (skipBlankLines cs).length ≤ cs.length := by
  fun_induction skipBlankLines cs <;> grind

/-! ## Strings and keys -/

/-- An escape takes at least one character. -/
theorem length_lt_of_escape? {cs rest : List Char} {c : Char} (h : escape? cs = some (c, rest)) :
    rest.length < cs.length := by
  unfold escape? at h
  split at h
  · cases h
  · split at h
    · obtain ⟨c, -, h⟩ := Option.map_eq_some_iff.1 h
      cases h
      exact Nat.lt_succ_self _
    · obtain ⟨digits, -, h⟩ := Option.bind_eq_some_iff.1 h
      obtain ⟨-, h⟩ := Option.ite_none_right_eq_some.1 h
      obtain ⟨c, -, h⟩ := Option.map_eq_some_iff.1 h
      cases h
      exact Nat.lt_succ_of_le (List.drop_suffix _ _).length_le

/-- A string between double quotes takes at least its closing quote. -/
theorem length_lt_of_quoted? {steps : Nat} {cs body rest : List Char}
    (h : quoted? steps cs = some (body, rest)) : rest.length < cs.length := by
  fun_induction quoted? steps cs generalizing body rest with
  | case1 => cases h
  | case2 => cases h
  | case3 =>
    cases h
    exact Nat.lt_succ_self _
  | case4 steps cs ih =>
    obtain ⟨⟨c, after⟩, hescape, h⟩ := Option.bind_eq_some_iff.1 h
    obtain ⟨⟨cs, last⟩, hquoted, h⟩ := Option.bind_eq_some_iff.1 h
    cases h
    exact Nat.lt_succ_of_lt ((ih _ hquoted).trans (length_lt_of_escape? hescape))
  | case5 steps c cs _ _ _ ih =>
    obtain ⟨⟨cs, last⟩, hquoted, h⟩ := Option.map_eq_some_iff.1 h
    cases h
    exact Nat.lt_succ_of_lt (ih hquoted)
  | case6 => cases h

/-- As many steps as characters read a string between double quotes to its end. -/
theorem quoted?_eq {steps steps' : Nat} {cs : List Char} (h : cs.length ≤ steps)
    (h' : cs.length ≤ steps') : quoted? steps cs = quoted? steps' cs := by
  fun_induction quoted? steps cs generalizing steps' with
  | case1 cs =>
    rw [List.length_eq_zero_iff.1 (Nat.le_zero.1 h)]
    cases steps' <;> rfl
  | case2 => cases steps' <;> rfl
  | case3 =>
    obtain ⟨steps', rfl⟩ := Nat.exists_eq_add_of_le' h'
    rfl
  | case4 steps cs ih =>
    obtain ⟨steps', rfl⟩ := Nat.exists_eq_add_of_le' (Nat.succ_le_of_lt (Nat.zero_lt_of_lt h'))
    refine Option.bind_congr fun escaped hescape => ?_
    obtain ⟨c, after⟩ := escaped
    have hlt := length_lt_of_escape? hescape
    simp only [List.length_cons] at h h'
    have hrest : quoted? steps after = quoted? steps' after := ih _ (by omega) (by omega)
    dsimp only
    rw [hrest]
  | case5 steps c cs hquote hbackslash hshown ih =>
    obtain ⟨steps', rfl⟩ := Nat.exists_eq_add_of_le' (Nat.succ_le_of_lt (Nat.zero_lt_of_lt h'))
    rw [quoted?, if_pos hshown, ih (Nat.le_of_succ_le_succ h) (Nat.le_of_succ_le_succ h')]
    all_goals assumption
  | case6 steps c cs hquote hbackslash hshown =>
    obtain ⟨steps', rfl⟩ := Nat.exists_eq_add_of_le' (Nat.succ_le_of_lt (Nat.zero_lt_of_lt h'))
    rw [quoted?, if_neg hshown]
    all_goals assumption

/-- A string between single quotes takes at least its closing quote. -/
theorem length_lt_of_literal? {cs body rest : List Char} (h : literal? cs = some (body, rest)) :
    rest.length < cs.length := by
  unfold literal? at h
  dsimp only at h
  split at h
  · next hafter =>
    cases h
    exact Text.length_lt_of_drop hafter
  · cases h

/-- A string of one line takes at least one character. -/
theorem length_lt_of_lineString? {cs body rest : List Char}
    (h : lineString? cs = some (body, rest)) : rest.length < cs.length := by
  unfold lineString? at h
  split at h
  · exact Nat.lt_succ_of_lt (length_lt_of_quoted? h)
  · exact Nat.lt_succ_of_lt (length_lt_of_literal? h)
  · cases h

/-- Closing quotes take at least one character. -/
theorem length_lt_of_closing? {quote : Char} {cs body rest : List Char}
    (h : closing? quote cs = some (body, rest)) : rest.length < cs.length := by
  obtain ⟨hquotes, h⟩ := Option.ite_none_left_eq_some.1 h
  cases h
  have hle := Nat.le_trans (List.take_sublist 5 _).length_le
    (List.takeWhile_prefix (· = quote) (l := cs)).length_le
  rw [List.length_drop]
  omega

/-- The start of the next line takes at least one character. -/
theorem length_lt_of_continued? {cs rest : List Char} (h : continued? cs = some rest) :
    rest.length < cs.length := by
  obtain ⟨after, hbreak, rfl⟩ := Option.map_eq_some_iff.1 h
  calc (skipBlankLines after).length
    _ ≤ after.length := length_skipBlankLines_le after
    _ < (skipSpaces cs).length := length_lt_of_afterBreak? hbreak
    _ ≤ cs.length := length_skipSpaces_le cs

/-- A character that is shown takes at least one character. -/
theorem length_lt_of_shown? {cs piece rest : List Char} (h : shown? cs = some (piece, rest)) :
    rest.length < cs.length := by
  unfold shown? at h
  split at h
  · cases h
    exact Nat.lt_succ_of_lt (Nat.lt_succ_self _)
  · obtain ⟨-, h⟩ := Option.ite_none_right_eq_some.1 h
    cases h
    exact Nat.lt_succ_self _
  · cases h

/-- A piece of a string of several lines takes at least one character. -/
theorem length_lt_of_piece? {quote : Char} {cs piece rest : List Char}
    (h : piece? quote cs = some (piece, rest)) : rest.length < cs.length := by
  unfold piece? at h
  split at h
  · split at h
    · next hcontinued =>
      cases h
      exact Nat.lt_succ_of_lt (length_lt_of_continued? hcontinued)
    · obtain ⟨⟨c, after⟩, hescape, h⟩ := Option.map_eq_some_iff.1 h
      cases h
      exact Nat.lt_succ_of_lt (length_lt_of_escape? hescape)
  · exact length_lt_of_shown? h

/-- A string of several lines takes at least one character. -/
theorem length_lt_of_lines? {quote : Char} {steps : Nat} {cs body rest : List Char}
    (h : lines? quote steps cs = some (body, rest)) : rest.length < cs.length := by
  induction steps generalizing cs body with
  | zero => cases h
  | succ steps ih =>
    rw [lines?] at h
    split at h
    · next hclosing =>
      cases h
      exact length_lt_of_closing? hclosing
    · obtain ⟨⟨piece, after⟩, hpiece, h⟩ := Option.bind_eq_some_iff.1 h
      obtain ⟨⟨others, last⟩, hothers, h⟩ := Option.bind_eq_some_iff.1 h
      cases h
      exact (ih hothers).trans (length_lt_of_piece? hpiece)

/-- As many steps as characters read a string of several lines to its end. -/
theorem lines?_eq {quote : Char} {steps steps' : Nat} {cs : List Char} (h : cs.length < steps)
    (h' : cs.length < steps') : lines? quote steps cs = lines? quote steps' cs := by
  induction steps generalizing steps' cs with
  | zero => exact absurd h (Nat.not_lt_zero _)
  | succ steps ih =>
    obtain ⟨steps', rfl⟩ := Nat.exists_eq_add_of_le' (Nat.succ_le_of_lt (Nat.zero_lt_of_lt h'))
    rw [lines?, lines?]
    split
    · rfl
    · refine Option.bind_congr fun found hpiece => ?_
      obtain ⟨piece, after⟩ := found
      have hlt := length_lt_of_piece? hpiece
      have hrest : lines? quote steps after = lines? quote steps' after :=
        ih (by omega) (by omega)
      dsimp only
      rw [hrest]

/-- A string of several lines behind its opening quotes takes at least one character. -/
theorem length_lt_of_linesString? {quote : Char} {cs body rest : List Char}
    (h : linesString? quote cs = some (body, rest)) : rest.length < cs.length := by
  have hlt := length_lt_of_lines? h
  cases hbreak : afterBreak? cs with
  | none =>
    rwa [hbreak] at hlt
  | some after =>
    rw [hbreak] at hlt
    exact hlt.trans (length_lt_of_afterBreak? hbreak)

/-- A string takes at least one character. -/
theorem length_lt_of_string? {cs body rest : List Char} (h : string? cs = some (body, rest)) :
    rest.length < cs.length := by
  unfold string? at h
  split at h
  · have := length_lt_of_linesString? h
    simp only [List.length_cons]
    omega
  · have := length_lt_of_linesString? h
    simp only [List.length_cons]
    omega
  · exact length_lt_of_lineString? h

/-- A part of a key takes at least one character. -/
theorem length_lt_of_keyPart? {cs rest : List Char} {part : String}
    (h : keyPart? cs = some (part, rest)) : rest.length < cs.length := by
  unfold keyPart? at h
  dsimp only at h
  split at h
  · obtain ⟨⟨body, after⟩, hline, h⟩ := Option.map_eq_some_iff.1 h
    cases h
    exact length_lt_of_lineString? hline
  · next hbare =>
    cases h
    have hpos := List.length_pos_iff.2 (List.isEmpty_iff.not.1 hbare)
    have hle := (List.takeWhile_prefix isBare (l := cs)).length_le
    rw [List.length_drop]
    omega

/-- A key takes at least one character. -/
theorem length_lt_of_key? {steps : Nat} {cs rest : List Char} {path : List String}
    (h : key? steps cs = some (path, rest)) : rest.length < cs.length := by
  induction steps generalizing cs path with
  | zero => cases h
  | succ steps ih =>
    obtain ⟨⟨part, after⟩, hpart, h⟩ := Option.bind_eq_some_iff.1 h
    have hlt := Nat.lt_of_lt_of_le (length_lt_of_keyPart? hpart) (length_skipSpaces_le cs)
    dsimp only at h
    split at h
    · next hpoint =>
      obtain ⟨⟨parts, last⟩, hparts, h⟩ := Option.bind_eq_some_iff.1 h
      cases h
      exact ((ih hparts).trans (length_lt_of_skipSpaces hpoint)).trans hlt
    · cases h
      exact Nat.lt_of_le_of_lt (length_skipSpaces_le after) hlt

/-- As many steps as characters read a key to its end. -/
theorem key?_eq {steps steps' : Nat} {cs : List Char} (h : cs.length ≤ steps)
    (h' : cs.length ≤ steps') : key? steps cs = key? steps' cs := by
  induction steps generalizing steps' cs with
  | zero =>
    rw [List.length_eq_zero_iff.1 (Nat.le_zero.1 h)]
    cases steps' <;> rfl
  | succ steps ih =>
    cases steps' with
    | zero =>
      rw [List.length_eq_zero_iff.1 (Nat.le_zero.1 h')]
      rfl
    | succ steps' =>
      rw [key?, key?]
      refine Option.bind_congr fun found hpart => ?_
      obtain ⟨part, after⟩ := found
      have hlt := Nat.lt_of_lt_of_le (length_lt_of_keyPart? hpart) (length_skipSpaces_le cs)
      dsimp only
      split
      · next rest hpoint =>
        have hlt' := length_lt_of_skipSpaces hpoint
        have hrest : key? steps rest = key? steps' rest := ih (by omega) (by omega)
        rw [hrest]
      · rfl

end Rulebook.Toml
