import Mathlib.Data.List.TakeWhile
import Rulebook.Proofs.Lexemes
import Rulebook.Proofs.Outcome
import Rulebook.Rule.Token

/-!
# Reading a text token by token

`Token.Scans` tells what the tokens of a text are without a search for the next lexeme: white space,
a lexeme, and so on to the end. It is what `Token.scanFrom` computes (`scans_iff`).

Texts are put together by the kinds of tokens that they spell (`Token.Spells`): two texts in a row
spell what each of them spells, if the second one goes on no word and no numeral of the first
(`Spells.append`).
-/

namespace Rulebook

open Text

namespace Lexeme

/-- The character in front of what follows some text. -/
def lastOf (before : Option Char) (cs : List Char) : Option Char := cs.getLast?.or before

theorem lastOf_cons (before : Option Char) (c : Char) (cs : List Char) :
    lastOf before (c :: cs) = lastOf (some c) cs := by
  rw [lastOf, lastOf, List.getLast?_cons]
  cases cs.getLast? <;> rfl

/-- What is found stands behind what is skipped. -/
theorem atStart?_of_find? {before : Option Char} {cs : List Char} {f : Found}
    (h : find? before cs = some f) :
    atStart? (lastOf before f.skipped) (f.text ++ f.rest) = some (f.lexeme, f.text, f.rest) := by
  induction cs generalizing before f with
  | nil => cases h
  | cons c cs ih =>
    unfold find? at h
    split at h
    · next hs =>
      cases h
      obtain ⟨hcs, -⟩ := eq_append_of_atStart? hs
      rw [hcs] at hs
      exact hs
    · obtain ⟨g, hg, rfl⟩ := Option.map_eq_some_iff.1 h
      rw [lastOf_cons]
      exact ih hg

/-- White space is skipped. -/
theorem find?_blank_append {gap : List Char} (blank : ∀ c ∈ gap, isBlank c = true)
    (before : Option Char) (cs : List Char) :
    find? before (gap ++ cs) =
      (find? (lastOf before gap) cs).map fun f => { f with skipped := gap ++ f.skipped } := by
  induction gap generalizing before with
  | nil =>
    change find? before cs = (find? before cs).map id
    rw [Option.map_id_fun, id]
  | cons c gap ih =>
    obtain ⟨hc, blank⟩ := List.forall_mem_cons.1 blank
    rw [List.cons_append, find?, atStart?_of_isBlank before hc, ih blank, lastOf_cons,
      Option.map_map]
    rfl

/-- A lexeme at the start is found there. -/
theorem find?_eq_some {before : Option Char} {cs text rest : List Char} {lexeme : Lexeme}
    (h : atStart? before cs = some (lexeme, text, rest)) :
    find? before cs = some ⟨[], lexeme, text, rest⟩ := by
  cases cs with
  | nil =>
    obtain ⟨heq, hne⟩ := eq_append_of_atStart? h
    exact absurd (List.append_eq_nil_iff.1 heq.symm).1 hne
  | cons c cs => rw [find?, h]

end Lexeme

namespace Token

open Lexeme

/-- A text has white space at most. -/
theorem gapFault?_eq_none_iff {position : Nat} {gap : List Char} :
    gapFault? position gap = none ↔ ∀ c ∈ gap, isBlank c = true := by
  have htrim : trim gap = [] ↔ ∀ c ∈ gap, isBlank c = true := by
    rw [trim, trimEnd, List.reverse_eq_nil_iff, List.dropWhile_eq_nil_iff]
    constructor
    · intro h
      rw [← List.takeWhile_append_dropWhile (p := isBlank) (l := gap)]
      exact List.forall_mem_append.2 ⟨fun c hc => List.mem_takeWhile_imp hc,
        fun c hc => h c (List.mem_reverse.2 hc)⟩
    · intro h c hc
      exact h c ((List.dropWhile_sublist isBlank).subset (List.mem_reverse.1 hc))
  rw [← htrim, gapFault?]
  by_cases h : trim gap = []
  · simp [h]
  · simp [h]

/-- What kind of token a lexeme is does not depend on its position. -/
theorem kindOf_eq_ok_of_eq_ok {lexeme : Lexeme} {text : List Char} {position : Nat} {kind : Kind}
    (h : kindOf lexeme text position = .ok kind) (position' : Nat) :
    kindOf lexeme text position' = .ok kind := by
  cases lexeme with
  | clause =>
    obtain ⟨c, hc, rfl⟩ := map_eq_ok.1 h
    refine map_eq_ok.2 ⟨c, ?_, rfl⟩
    unfold Condition.ofClause at hc ⊢
    split at hc
    · exact hc
    · cases hc
  | _ => exact h

/-- A text that stands behind `position` characters, of which `before` is the last, has these
tokens. -/
inductive Scans : Option Char → Nat → List Char → List Token → Prop
  | blank {before : Option Char} {position : Nat} {gap : List Char}
      (blank : ∀ c ∈ gap, isBlank c = true) : Scans before position gap []
  | lexeme {before : Option Char} {position : Nat} {gap text rest : List Char} {lexeme : Lexeme}
      {kind : Kind} {tokens : List Token} (blank : ∀ c ∈ gap, isBlank c = true)
      (found : atStart? (lastOf before gap) (text ++ rest) = some (lexeme, text, rest))
      (kindOf_eq : kindOf lexeme text (position + gap.length) = .ok kind)
      (follows : Scans text.getLast? (position + gap.length + text.length) rest tokens) :
      Scans before position (gap ++ (text ++ rest)) (⟨kind, position + gap.length⟩ :: tokens)

/-- The tokens of a text are what is computed. -/
theorem scans_iff {before : Option Char} {position : Nat} {cs : List Char} {tokens : List Token} :
    Scans before position cs tokens ↔ scanFrom before position cs = .ok tokens := by
  constructor
  · intro h
    induction h with
    | @blank before position gap blank =>
      have hfind := find?_blank_append blank before []
      rw [List.append_nil] at hfind
      have hfault : gapFault? position gap = none := gapFault?_eq_none_iff.2 blank
      unfold scanFrom
      split
      · rw [hfault]
      · next hsome =>
        rw [hfind] at hsome
        cases hsome
    | @lexeme before position gap text rest lexeme kind tokens blank found kindOf_eq follows ih =>
      have hfind := find?_blank_append blank before (text ++ rest)
      rw [find?_eq_some found] at hfind
      have hfault : gapFault? position gap = none := gapFault?_eq_none_iff.2 blank
      unfold scanFrom
      split
      · next hnone =>
        rw [hfind] at hnone
        cases hnone
      · next f hsome =>
        rw [hfind] at hsome
        cases hsome
        simp only [List.append_nil, hfault, kindOf_eq, ih]
  · intro h
    fun_induction scanFrom before position cs generalizing tokens with
    | case1 => cases h
    | case2 before position cs hfind hfault =>
      cases h
      exact .blank (gapFault?_eq_none_iff.1 hfault)
    | case3 => cases h
    | case4 => cases h
    | case5 => cases h
    | case6 before position cs f hfind hfault start kind hkind tokens' hrest =>
      rename_i ih
      cases h
      have found := atStart?_of_find? hfind
      obtain ⟨heq, -⟩ := eq_append_of_find? hfind
      rw [heq, List.append_assoc]
      exact .lexeme (gapFault?_eq_none_iff.1 hfault) found hkind (ih hrest)

/-! ## What a text spells -/

/-- A text behind the character `before` has tokens of these kinds, wherever it stands. -/
def Spells (before : Option Char) (cs : List Char) (kinds : List Kind) : Prop :=
  ∀ position, ∃ tokens, Scans before position cs tokens ∧ tokens.map (·.kind) = kinds

/-- What a text spells does not depend on the position, and on what is in front only by its being a
word character or not. -/
theorem Scans.spells {before before' : Option Char} {position : Nat} {cs : List Char}
    {tokens : List Token} (h : Scans before position cs tokens)
    (hbefore : before.any isWord = before'.any isWord) :
    Spells before' cs (tokens.map (·.kind)) := by
  induction h generalizing before' with
  | blank blank => exact fun position' => ⟨[], .blank blank, rfl⟩
  | @lexeme before position gap text rest lexeme kind tokens blank found kindOf_eq follows ih =>
    intro position'
    have hlast : (lastOf before gap).any isWord = (lastOf before' gap).any isWord := by
      unfold lastOf
      cases gap.getLast? with
      | none => exact hbefore
      | some c => rfl
    obtain ⟨tokens', hfollows, hkinds⟩ := ih rfl (position' + gap.length + text.length)
    rw [atStart?_congr hlast] at found
    exact ⟨_, .lexeme blank found (kindOf_eq_ok_of_eq_ok kindOf_eq _) hfollows,
      congrArg (kind :: ·) hkinds⟩

/-- The empty text spells nothing. -/
theorem Spells.nil (before : Option Char) : Spells before [] [] := by
  have hnothing : ∀ c ∈ [], isBlank c = true := by simp
  exact fun position => ⟨[], .blank hnothing, rfl⟩

/-- White space in front spells nothing. -/
theorem Spells.behind_blank {before : Option Char} {gap cs : List Char} {kinds : List Kind}
    (blank : ∀ c ∈ gap, isBlank c = true) (h : Spells (lastOf before gap) cs kinds) :
    Spells before (gap ++ cs) kinds := by
  intro position
  obtain ⟨tokens, hscans, hkinds⟩ := h (position + gap.length)
  refine ⟨tokens, ?_, hkinds⟩
  cases hscans with
  | blank blank' => exact .blank (List.forall_mem_append.2 ⟨blank, blank'⟩)
  | @lexeme _ _ gap' text rest lexeme kind tokens blank' found kindOf_eq follows =>
    have hlength : position + gap.length + gap'.length = position + (gap ++ gap').length := by
      rw [List.length_append, Nat.add_assoc]
    have hlast : lastOf (lastOf before gap) gap' = lastOf before (gap ++ gap') := by
      rw [lastOf, lastOf, lastOf, List.getLast?_append, Option.or_assoc]
    rw [hlength] at kindOf_eq follows ⊢
    rw [hlast] at found
    rw [← List.append_assoc]
    exact .lexeme (List.forall_mem_append.2 ⟨blank, blank'⟩) found kindOf_eq follows

/-- A lexeme in front spells its kind of token. -/
theorem Spells.behind_lexeme {before : Option Char} {text rest : List Char} {lexeme : Lexeme}
    {kind : Kind} {kinds : List Kind}
    (found : atStart? before (text ++ rest) = some (lexeme, text, rest))
    (kindOf_eq : kindOf lexeme text 0 = .ok kind) (h : Spells text.getLast? rest kinds) :
    Spells before (text ++ rest) (kind :: kinds) := by
  intro position
  obtain ⟨tokens, hscans, hkinds⟩ := h (position + 0 + text.length)
  have hnothing : ∀ c ∈ [], isBlank c = true := by simp
  exact ⟨_, .lexeme hnothing found (kindOf_eq_ok_of_eq_ok kindOf_eq _) hscans,
    congrArg (kind :: ·) hkinds⟩

/-- Two texts in a row spell what each of them spells, if the second one goes on no word and no
numeral of the first. -/
theorem Spells.append {before : Option Char} {cs suffix : List Char} {kinds kinds' : List Kind}
    (h : Spells before cs kinds) (hstops : Stops suffix)
    (hsuffix : ∀ before, Spells before suffix kinds') :
    Spells before (cs ++ suffix) (kinds ++ kinds') := by
  intro position
  obtain ⟨tokens, hscans, rfl⟩ := h position
  clear h
  induction hscans with
  | blank blank => exact Spells.behind_blank blank (hsuffix _) _
  | @lexeme before position gap text rest lexeme kind tokens blank found kindOf_eq follows ih =>
    obtain ⟨tokens', hfollows, hkinds⟩ := ih
    have hextended := atStart?_append found hstops
    rw [List.append_assoc] at hextended
    rw [List.append_assoc, List.append_assoc]
    exact ⟨_, .lexeme blank hextended kindOf_eq hfollows, congrArg (kind :: ·) hkinds⟩

/-- An open parenthesis in front. -/
theorem Spells.openParen {cs : List Char} {kinds : List Kind} (h : Spells (some '(') cs kinds)
    (before : Option Char) : Spells before ('(' :: cs) (.openParen :: kinds) := by
  have found : atStart? before (['('] ++ cs) = some (.openParen, ['('], cs) :=
    atStart?_of_not_isWord before (isWord_sign (by simp [signs])) cs
  exact Spells.behind_lexeme found rfl h

/-- A closed parenthesis in front. -/
theorem Spells.closeParen {cs : List Char} {kinds : List Kind} (h : Spells (some ')') cs kinds)
    (before : Option Char) : Spells before (')' :: cs) (.closeParen :: kinds) := by
  have found : atStart? before ([')'] ++ cs) = some (.closeParen, [')'], cs) :=
    atStart?_of_not_isWord before (isWord_sign (by simp [signs])) cs
  exact Spells.behind_lexeme found rfl h

/-- A connective between spaces in front. -/
theorem Spells.connective {cs : List Char} {kinds : List Kind} {k : Connective}
    (hk : k ∈ [.and, .or]) (h : Spells (some ' ') cs kinds) (before : Option Char) :
    Spells before (' ' :: (k.keyword.toList ++ ' ' :: cs)) (.connective k :: kinds) := by
  have hword : isWord ' ' = false := isWord_of_isBlank isBlank_space_lineFeed.1
  have hends : endsWord (' ' :: cs) = true := by rw [endsWord, hword, Bool.not_false]
  have hbefore : (some ' ').any isWord = false := by rw [Option.any_some, hword]
  have hbehind : Spells k.keyword.toList.getLast? (' ' :: cs) kinds :=
    .behind_blank isBlank_of_mem_space h
  have hkeyword : Spells (some ' ') (k.keyword.toList ++ ' ' :: cs) (.connective k :: kinds) :=
    .behind_lexeme (atStart?_keyword hbefore hends hk) rfl hbehind
  exact .behind_blank isBlank_of_mem_space hkeyword

/-- A text that spells some kinds is scanned to tokens of these kinds. -/
theorem exists_scan_eq_ok {source : String} {kinds : List Kind}
    (h : Spells none source.toList kinds) :
    ∃ tokens, scan source = .ok tokens ∧ tokens.map (·.kind) = kinds := by
  obtain ⟨tokens, hscans, hkinds⟩ := h 0
  exact ⟨tokens, scans_iff.1 hscans, hkinds⟩

end Token

end Rulebook
