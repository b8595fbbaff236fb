import Rulebook.Proofs.Layout
import Rulebook.Proofs.Splitting

/-!
# White space between tokens

The texts of the tokens of a text in a row, with white space between neighbours, have tokens of the
same kinds, whatever the white space is (`spells_interleave`). There is one exception: a comparison
whose field is the word of a connective. Such a field is no keyword only behind a word character
(`Scans.isWord_lastOf_of_hasKeywordField`), as in `a=1AND='x'`, and white space in front of it makes
it one (`scan_respaced_iff`).
-/

namespace Rulebook.Token

open Text Lexeme

/-- A comparison whose field is the word of a connective. -/
def Kind.HasKeywordField : Kind → Prop
  | .condition c => c.field ∈ [Connective.and, .or].map Connective.keyword
  | _ => False

/-- White space in front of the first text, between each two and behind the last, and some between
each two. -/
structure Separates (gaps texts : List (List Char)) : Prop where
  length_gaps : gaps.length = texts.length + 1
  blank : ∀ gap ∈ gaps, ∀ c ∈ gap, isBlank c = true
  inner_ne_nil : ∀ gap ∈ gaps.tail.dropLast, gap ≠ []

/-- The gap behind the first text of several is not empty, and without the first text the gaps are
still gaps between the texts. -/
theorem Separates.tail {gap next text : List Char} {gaps texts : List (List Char)}
    (h : Separates (gap :: next :: gaps) (text :: texts)) :
    Separates (next :: gaps) texts ∧ (texts ≠ [] → next ≠ []) := by
  obtain ⟨hlength, hblank, hinner⟩ := h
  have hlength' : gaps.length = texts.length := by simpa using hlength
  have hblank' := (List.forall_mem_cons.1 hblank).2
  cases gaps with
  | nil =>
    obtain rfl : texts = [] := List.eq_nil_of_length_eq_zero hlength'.symm
    exact ⟨⟨rfl, hblank', by simp⟩, fun hne => absurd rfl hne⟩
  | cons gap' gaps =>
    rw [List.tail_cons, List.dropLast_cons_cons] at hinner
    obtain ⟨hnext, hinner'⟩ := List.forall_mem_cons.1 hinner
    exact ⟨⟨by simpa using hlength', hblank', hinner'⟩, fun _ => hnext⟩

/-! ## What stands behind white space -/

/-- White space goes on no word and no numeral. -/
theorem stops_of_isBlank {cs : List Char} (h : ∀ c ∈ cs.head?, isBlank c = true) : Stops cs := by
  intro c hc
  refine ⟨isWord_of_isBlank (h c hc), ?_⟩
  exact ne_of_class (h c hc) (isBlank_sign (by simp [signs]))

/-- No word character stands in front of what follows white space. -/
theorem isWord_lastOf {gap : List Char} (hne : gap ≠ []) (blank : ∀ c ∈ gap, isBlank c = true)
    (before : Option Char) : (lastOf before gap).any isWord = false := by
  rw [lastOf, List.getLast?_eq_some_getLast hne, Option.some_or, Option.any_some]
  exact isWord_of_isBlank (blank _ (List.getLast_mem hne))

/-- No word character stands in front of what follows white space at the start. -/
theorem isWord_lastOf_none {gap : List Char} (blank : ∀ c ∈ gap, isBlank c = true) :
    (lastOf none gap).any isWord = false := by
  cases gap with
  | nil => rfl
  | cons c gap => exact isWord_lastOf (List.cons_ne_nil _ _) blank none

/-- Separated texts go on no word and no numeral of a text in front of them. -/
theorem Separates.stops {gap : List Char} {gaps texts : List (List Char)}
    (h : Separates (gap :: gaps) texts) (hne : texts ≠ [] → gap ≠ []) :
    Stops (interleave (gap :: gaps) texts) := by
  have hblank := h.blank gap List.mem_cons_self
  refine stops_of_isBlank fun c hc => hblank c ?_
  cases texts with
  | nil =>
    obtain rfl : gaps = [] := List.eq_nil_of_length_eq_zero (by simpa using h.length_gaps)
    rw [interleave, List.flatten_singleton] at hc
    exact List.mem_of_mem_head? hc
  | cons text texts =>
    rw [interleave, List.head?_append_of_ne_nil _ (hne (List.cons_ne_nil _ _))] at hc
    exact List.mem_of_mem_head? hc

/-! ## A token by itself -/

/-- The field of the condition that a clause states is the field of the clause. -/
theorem field_eq_of_ofClause {field text : List Char} {c : Condition} {position : Nat}
    (clause : IsClause field text) (h : Condition.ofClause text position = .ok c) :
    c.field = String.ofList field := by
  obtain ⟨k, rfl⟩ := Clause.exists_chars_eq clause
  have hfield : k.field = field :=
    (k.isClause.takeWhile_append []).symm.trans (clause.takeWhile_append [])
  rw [k.ofClause_chars] at h
  split at h
  · cases h
  · cases h
    rw [Clause.condition, hfield]

/-- Behind no word character a token is found as what it is, unless its field is a keyword. -/
theorem Denotes.atStart?_eq {before : Option Char} {text suffix : List Char} {kind : Kind}
    (h : Denotes text kind) (hfield : ¬ kind.HasKeywordField) (hbefore : before.any isWord = false)
    (hstops : Stops suffix) :
    ∃ lexeme, atStart? before (text ++ suffix) = some (lexeme, text, suffix) ∧
      ∀ position, kindOf lexeme text position = .ok kind := by
  cases h with
  | @connective k mem =>
    have hends : endsWord suffix = true := endsWord_eq_true fun c hc => (hstops c hc).1
    exact ⟨_, atStart?_keyword hbefore hends mem, fun _ => rfl⟩
  | openParen =>
    exact ⟨.openParen, atStart?_of_not_isWord before (isWord_sign (by simp [signs])) suffix,
      fun _ => rfl⟩
  | closeParen =>
    exact ⟨.closeParen, atStart?_of_not_isWord before (isWord_sign (by simp [signs])) suffix,
      fun _ => rfl⟩
  | @condition field text c clause states =>
    have hfield_eq := field_eq_of_ofClause clause (states 0)
    have hkeyword {k : Connective} (hk : k ∈ [.and, .or]) : field ≠ k.keyword.toList := by
      rintro rfl
      rw [String.ofList_toList] at hfield_eq
      exact hfield (List.mem_map.2 ⟨k, hk, hfield_eq.symm⟩)
    exact ⟨.clause, clause.atStart?_eq (hkeyword (k := .and) (by decide))
        (hkeyword (k := .or) (by decide)) hstops before,
      fun position => map_eq_ok.2 ⟨c, states position, rfl⟩⟩

/-- Behind no word character a field that is a keyword is found as a connective. -/
theorem Denotes.exists_atStart?_keyword {before : Option Char} {text : List Char} {kind : Kind}
    (h : Denotes text kind) (hfield : kind.HasKeywordField) (hbefore : before.any isWord = false)
    (suffix : List Char) :
    ∃ k rest, atStart? before (text ++ suffix) =
      some (.keyword k, k.keyword.toList, rest) := by
  cases h with
  | @condition field text c clause states =>
    obtain ⟨k, hk, hk_eq⟩ := List.mem_map.1 hfield
    have hfield_eq : field = k.keyword.toList := by
      rw [hk_eq, field_eq_of_ofClause clause (states 0), String.toList_ofList]
    obtain ⟨-, rest, heq, hrest⟩ := clause.exists_field_append suffix
    rw [heq, hfield_eq]
    exact ⟨k, rest, atStart?_keyword hbefore (endsWord_eq_true hrest) hk⟩
  | connective | openParen | closeParen => exact hfield.elim

/-- A field that is a keyword stands right behind a word character. -/
theorem Scans.isWord_lastOf_of_hasKeywordField {before : Option Char} {start : Nat}
    {cs : List Char} {tokens : List Token} (h : Scans before start cs tokens) :
    ∀ token ∈ tokens, token.kind.HasKeywordField →
      (lastOf before (cs.take (token.position - start))).any isWord = true := by
  induction h with
  | blank => simp
  | @lexeme before start gap text rest lexeme kind tokens blank found kindOf_eq follows ih =>
    refine List.forall_mem_cons.2 ⟨fun hfield => ?_, fun token htoken hfield => ?_⟩
    · rw [Nat.add_sub_cancel_left, List.take_left]
      cases hword : (lastOf before gap).any isWord with
      | true => rfl
      | false =>
        obtain ⟨k, rest', hkeyword⟩ := (denotes_of_atStart? found kindOf_eq).exists_atStart?_keyword
          hfield hword rest
        rw [hkeyword] at found
        cases found
        cases kindOf_eq
        exact hfield.elim
    · -- In front of a later token stands what is in front of it behind the first one.
      obtain ⟨n, hn⟩ := Nat.exists_eq_add_of_le (follows.pairwise_position.1 token htoken)
      have hlater := ih token htoken hfield
      have hlength : token.position - start = gap.length + (text.length + n) := by omega
      have hlast := List.getLast?_eq_some_getLast (eq_append_of_atStart? found).2
      rw [hn, Nat.add_sub_cancel_left, hlast] at hlater
      rw [hlength, List.take_length_add_append, List.take_length_add_append, lastOf,
        List.getLast?_append, List.getLast?_append, hlast, Option.or_assoc, Option.or_assoc,
        Option.some_or]
      exact hlater

/-! ## A row of tokens -/

/-- The first token behind white space is the lexeme there. -/
theorem Scans.exists_of_atStart? {before : Option Char} {position : Nat}
    {gap cs text rest : List Char} {lexeme : Lexeme} {tokens : List Token}
    (h : Scans before position (gap ++ cs) tokens) (blank : ∀ c ∈ gap, isBlank c = true)
    (found : atStart? (lastOf before gap) cs = some (lexeme, text, rest)) :
    ∃ kind behind, kindOf lexeme text (position + gap.length) = .ok kind ∧
      Scans text.getLast? (position + gap.length + text.length) rest behind ∧
      tokens = ⟨kind, position + gap.length⟩ :: behind := by
  have hfind : find? before (gap ++ cs) = some ⟨gap, lexeme, text, rest⟩ := by
    rw [find?_blank_append blank, find?_eq_some found, Option.map_some, List.append_nil]
  generalize gap ++ cs = whole at h hfind
  cases h with
  | blank blank' =>
    have hnone := find?_blank_append blank' before []
    rw [List.append_nil, hfind] at hnone
    cases hnone
  | lexeme blank' found' kindOf_eq follows =>
    rw [find?_blank_append blank', find?_eq_some found', Option.map_some, List.append_nil,
      Option.some.injEq, Found.mk.injEq] at hfind
    obtain ⟨rfl, rfl, rfl, rfl⟩ := hfind
    exact ⟨_, _, kindOf_eq, follows, rfl⟩

variable {tokens : List Token} {texts : List (List Char)}

/-- Separated texts spell their tokens, unless a field is a keyword. -/
theorem spells_interleave
    (h : List.Forall₂ (fun token text => Denotes text token.kind) tokens texts)
    (hfree : ∀ token ∈ tokens, ¬ token.kind.HasKeywordField) {before : Option Char}
    {gap : List Char} {gaps : List (List Char)} (hseparates : Separates (gap :: gaps) texts)
    (hbefore : texts ≠ [] → (lastOf before gap).any isWord = false) :
    Spells before (interleave (gap :: gaps) texts) (tokens.map (·.kind)) := by
  have hblank := hseparates.blank gap List.mem_cons_self
  induction h generalizing before gap gaps with
  | nil =>
    obtain rfl : gaps = [] := List.eq_nil_of_length_eq_zero (by simpa using hseparates.length_gaps)
    exact .behind_blank hblank (.nil _)
  | @cons token text tokens texts denotes _ ih =>
    cases gaps with
    | nil => cases hseparates.length_gaps
    | cons next gaps =>
      obtain ⟨hfield, hfree⟩ := List.forall_mem_cons.1 hfree
      obtain ⟨htail, hnext⟩ := hseparates.tail
      have hnextBlank := htail.blank next List.mem_cons_self
      obtain ⟨lexeme, found, kindOf_eq⟩ :=
        denotes.atStart?_eq hfield (hbefore (List.cons_ne_nil _ _)) (htail.stops hnext)
      have hbehind : Spells text.getLast? (interleave (next :: gaps) texts)
          (tokens.map (·.kind)) :=
        ih hfree htail (fun hne => isWord_lastOf (hnext hne) hnextBlank _) hnextBlank
      exact .behind_blank hblank (.behind_lexeme found (kindOf_eq 0) hbehind)

/-- Separated texts that have tokens of the same kinds have no field that is a keyword. -/
theorem not_hasKeywordField_of_scans
    (h : List.Forall₂ (fun token text => Denotes text token.kind) tokens texts)
    {before : Option Char} {position : Nat} {gap : List Char} {gaps : List (List Char)}
    {tokens' : List Token} (hseparates : Separates (gap :: gaps) texts)
    (hbefore : texts ≠ [] → (lastOf before gap).any isWord = false)
    (hscans : Scans before position (interleave (gap :: gaps) texts) tokens')
    (hkinds : tokens'.map (·.kind) = tokens.map (·.kind)) :
    ∀ token ∈ tokens, ¬ token.kind.HasKeywordField := by
  induction h generalizing before position gap gaps tokens' with
  | nil => simp
  | @cons token text tokens texts denotes _ ih =>
    cases gaps with
    | nil => cases hseparates.length_gaps
    | cons next gaps =>
      have hblank := hseparates.blank gap List.mem_cons_self
      obtain ⟨htail, hnext⟩ := hseparates.tail
      have hnextBlank := htail.blank next List.mem_cons_self
      have hword := hbefore (List.cons_ne_nil _ _)
      rw [interleave] at hscans
      by_cases hfield : token.kind.HasKeywordField
      · -- The first token is a connective and no comparison.
        obtain ⟨k, rest, found⟩ := denotes.exists_atStart?_keyword hfield hword _
        obtain ⟨kind, behind, hkind, -, rfl⟩ := hscans.exists_of_atStart? hblank found
        cases hkind
        have hfirst : Kind.connective k = token.kind := (List.cons.inj hkinds).1
        rw [← hfirst] at hfield
        exact hfield.elim
      · obtain ⟨lexeme, found, -⟩ := denotes.atStart?_eq hfield hword (htail.stops hnext)
        obtain ⟨kind, behind, -, hfollows, rfl⟩ := hscans.exists_of_atStart? hblank found
        have hrest : ∀ token ∈ tokens, ¬ token.kind.HasKeywordField :=
          ih htail (fun hne => isWord_lastOf (hnext hne) hnextBlank _) hfollows
            (List.cons.inj hkinds).2
        exact List.forall_mem_cons.2 ⟨hfield, hrest⟩

/-- The texts of tokens with white space between them have tokens of the same kinds if and only if
no comparison has the word of a connective as its field. -/
theorem Splits.exists_scan_iff {start : Nat} {source : List Char} {gaps gaps' : List (List Char)}
    (hsplits : Splits start source tokens gaps texts) (hseparates : Separates gaps' texts) :
    (∃ tokens', scan (String.ofList (interleave gaps' texts)) = .ok tokens' ∧
      tokens'.map (·.kind) = tokens.map (·.kind)) ↔
    ∀ token ∈ tokens, ¬ token.kind.HasKeywordField := by
  cases gaps' with
  | nil => cases hseparates.length_gaps
  | cons gap gaps' =>
    have hbefore : (lastOf none gap).any isWord = false :=
      isWord_lastOf_none (hseparates.blank gap List.mem_cons_self)
    constructor
    · rintro ⟨tokens', hscan, hkinds⟩
      have hscans := scans_iff.2 hscan
      rw [String.toList_ofList] at hscans
      exact not_hasKeywordField_of_scans hsplits.denotes hseparates (fun _ => hbefore) hscans hkinds
    · intro hfree
      refine exists_scan_eq_ok ?_
      rw [String.toList_ofList]
      exact spells_interleave hsplits.denotes hfree hseparates fun _ => hbefore

/-- A text with tokens is white space and their texts in turn, and the texts with other white space,
some between each two, have tokens of the same kinds if and only if no comparison has the word of a
connective as its field. A comparison with such a field stands right behind a word character. -/
theorem scan_respaced_iff {source : String} {tokens : List Token} (h : scan source = .ok tokens) :
    (∃ gaps texts, Splits 0 source.toList tokens gaps texts) ∧
      (∀ gaps texts, Splits 0 source.toList tokens gaps texts →
        ∀ gaps', Separates gaps' texts →
          ((∃ tokens', scan (String.ofList (interleave gaps' texts)) = .ok tokens' ∧
            tokens'.map (·.kind) = tokens.map (·.kind)) ↔
          ∀ token ∈ tokens, ¬ token.kind.HasKeywordField)) ∧
      ∀ token ∈ tokens, token.kind.HasKeywordField →
        (source.toList.take token.position).getLast?.any isWord = true := by
  have hscans : Scans none 0 source.toList tokens := scans_iff.2 h
  refine ⟨hscans.exists_splits,
    fun gaps texts hsplits gaps' hseparates => hsplits.exists_scan_iff hseparates,
    fun token htoken hfield => ?_⟩
  have hword := hscans.isWord_lastOf_of_hasKeywordField token htoken hfield
  rwa [lastOf, Option.or_none, Nat.sub_zero] at hword

/-- A keyword that touches a quote may be moved away from it. -/
theorem scan_respaced_iff_touching_quote :
    Splits 0 "a='x'OR b='y'".toList
      [⟨.condition ⟨"a", .eq, .text "x"⟩, 0⟩, ⟨.connective .or, 5⟩,
        ⟨.condition ⟨"b", .eq, .text "y"⟩, 8⟩]
      [[], [], [' '], []] ["a='x'".toList, "OR".toList, "b='y'".toList] ∧
    ∃ tokens, scan "\na='x' OR \tb='y'" = .ok tokens ∧ tokens.map (·.kind) =
      [.condition ⟨"a", .eq, .text "x"⟩, .connective .or, .condition ⟨"b", .eq, .text "y"⟩] := by
  have htokens : scan "a='x'OR b='y'" = .ok [⟨.condition ⟨"a", .eq, .text "x"⟩, 0⟩,
      ⟨.connective .or, 5⟩, ⟨.condition ⟨"b", .eq, .text "y"⟩, 8⟩] := by decide +kernel
  have hclause : clause? "a='x'".toList = some ("a='x'".toList, []) := by decide +kernel
  have hclause' : clause? "b='y'".toList = some ("b='y'".toList, []) := by decide +kernel
  have hkind : kindOf .clause "a='x'".toList 0 = .ok (.condition ⟨"a", .eq, .text "x"⟩) := by
    decide +kernel
  have hkind' : kindOf .clause "b='y'".toList 0 = .ok (.condition ⟨"b", .eq, .text "y"⟩) := by
    decide +kernel
  have hspace : isBlank ' ' = true := by decide +kernel
  have hlineFeed : isBlank '\n' = true := by decide +kernel
  have htab : isBlank '\t' = true := by decide +kernel
  have hor : Denotes "OR".toList (.connective .or) := .connective (k := .or) (by decide)
  have hsplits : Splits 0 "a='x'OR b='y'".toList
      [⟨.condition ⟨"a", .eq, .text "x"⟩, 0⟩, ⟨.connective .or, 5⟩,
        ⟨.condition ⟨"b", .eq, .text "y"⟩, 8⟩]
      [[], [], [' '], []] ["a='x'".toList, "OR".toList, "b='y'".toList] :=
    { source_eq := by decide +kernel
      length_gaps := rfl
      blank := by simp [hspace]
      denotes := .cons (denotes_of_clause? hclause hkind)
        (.cons hor (.cons (denotes_of_clause? hclause' hkind') .nil))
      position := by rintro (_ | _ | _ | i) token htoken <;> cases htoken <;> decide +kernel }
  have hseparates : Separates [['\n'], [' '], [' ', '\t'], []]
      ["a='x'".toList, "OR".toList, "b='y'".toList] :=
    ⟨rfl, by simp [hspace, hlineFeed, htab], by decide⟩
  refine ⟨hsplits, ((scan_respaced_iff htokens).2.1 _ _ hsplits _ hseparates).2 ?_⟩
  simp [Kind.HasKeywordField, Connective.keyword]

/-- Behind a numeral a field may have the word of a connective, and a space in front of it makes it
the connective, which leaves no field for the comparison. -/
theorem scan_space_in_front_of_field :
    ∃ tokens, scan "a=1AND='x'" = .ok tokens ∧
      Splits 0 "a=1AND='x'".toList tokens [[], [], []] ["a=1".toList, "AND='x'".toList] ∧
      Separates [[], [' '], []] ["a=1".toList, "AND='x'".toList] ∧
      scan (String.ofList (interleave [[], [' '], []] ["a=1".toList, "AND='x'".toList])) =
        .error (.unexpectedInput 7 "='x'") := by
  have htokens : scan "a=1AND='x'" = .ok [⟨.condition ⟨"a", .eq, .ofText ['1']⟩, 0⟩,
      ⟨.condition ⟨"AND", .eq, .text "x"⟩, 3⟩] := by decide +kernel
  have hclause : clause? "a=1".toList = some ("a=1".toList, []) := by decide +kernel
  have hclause' : clause? "AND='x'".toList = some ("AND='x'".toList, []) := by decide +kernel
  have hkind : kindOf .clause "a=1".toList 0 = .ok (.condition ⟨"a", .eq, .ofText ['1']⟩) := by
    decide +kernel
  have hkind' : kindOf .clause "AND='x'".toList 0 = .ok (.condition ⟨"AND", .eq, .text "x"⟩) := by
    decide +kernel
  have hsplits : Splits 0 "a=1AND='x'".toList [⟨.condition ⟨"a", .eq, .ofText ['1']⟩, 0⟩,
      ⟨.condition ⟨"AND", .eq, .text "x"⟩, 3⟩] [[], [], []] ["a=1".toList, "AND='x'".toList] :=
    { source_eq := by decide +kernel
      length_gaps := rfl
      blank := by simp
      denotes := .cons (denotes_of_clause? hclause hkind)
        (.cons (denotes_of_clause? hclause' hkind') .nil)
      position := by rintro (_ | _ | i) token htoken <;> cases htoken <;> decide +kernel }
  have hspace : isBlank ' ' = true := by decide +kernel
  have hseparates : Separates [[], [' '], []] ["a=1".toList, "AND='x'".toList] :=
    ⟨rfl, by simp [hspace], by decide⟩
  exact ⟨_, htokens, hsplits, hseparates, by decide +kernel⟩

end Rulebook.Token
