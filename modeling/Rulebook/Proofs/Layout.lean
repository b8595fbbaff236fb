import Mathlib.Data.List.Forall2
import Rulebook.Proofs.Clauses
import Rulebook.Proofs.Scan

/-!
# Where tokens stand

A text that has tokens is white space and the texts of its tokens in turn (`Splits`). Every token
text by itself is of the kind of its token, and the position of the token is the number of
characters in front of its text: nothing is dropped, and the positions ascend.

A text that has no tokens is refused with a part of it and the place where that stands (`Quotes`).
Both go through the scan from the start to the end: what is true of the rest behind a lexeme is true
of the whole text with the lexeme in front of it (`scan_layout`).
-/

namespace Rulebook.Token

open Text Lexeme

/-- A text that is a token of this kind from end to end. -/
inductive Denotes : List Char → Kind → Prop
  | connective {k : Connective} (mem : k ∈ [.and, .or]) : Denotes k.keyword.toList (.connective k)
  | openParen : Denotes ['('] .openParen
  | closeParen : Denotes [')'] .closeParen
  | condition {field text : List Char} {c : Condition} (clause : IsClause field text)
      (states : ∀ position, Condition.ofClause text position = .ok c) : Denotes text (.condition c)

/-- Gaps and texts in turn, a gap first. -/
def interleave : (gaps texts : List (List Char)) → List Char
  | gaps, [] => gaps.flatten
  | [], text :: texts => text ++ interleave [] texts
  | gap :: gaps, text :: texts => gap ++ (text ++ interleave gaps texts)

/-- A text behind `start` characters is white space and token texts in turn, white space first and
last, and each token has the number of characters in front of its text. -/
structure Splits (start : Nat) (source : List Char) (tokens : List Token)
    (gaps texts : List (List Char)) : Prop where
  source_eq : source = interleave gaps texts
  length_gaps : gaps.length = texts.length + 1
  blank : ∀ gap ∈ gaps, ∀ c ∈ gap, isBlank c = true
  denotes : List.Forall₂ (fun token text => Denotes text token.kind) tokens texts
  position : ∀ (i : Nat) (token : Token), tokens[i]? = some token →
    token.position = start + (interleave (gaps.take (i + 1)) (texts.take i)).length

/-- White space splits into no tokens. -/
theorem Splits.blank_text {gap : List Char} (blank : ∀ c ∈ gap, isBlank c = true) (start : Nat) :
    Splits start gap [] [gap] [] where
  source_eq := by simp [interleave]
  length_gaps := rfl
  blank := List.forall_mem_singleton.2 blank
  denotes := .nil
  position := by simp

/-- A token in front of what splits, with white space in front of it. -/
theorem Splits.cons {start : Nat} {gap text rest : List Char} {kind : Kind} {tokens : List Token}
    {gaps texts : List (List Char)} (blank : ∀ c ∈ gap, isBlank c = true)
    (denotes : Denotes text kind)
    (h : Splits (start + gap.length + text.length) rest tokens gaps texts) :
    Splits start (gap ++ (text ++ rest)) (⟨kind, start + gap.length⟩ :: tokens) (gap :: gaps)
      (text :: texts) where
  source_eq := by rw [interleave, ← h.source_eq]
  length_gaps := congrArg (· + 1) h.length_gaps
  blank := List.forall_mem_cons.2 ⟨blank, h.blank⟩
  denotes := .cons denotes h.denotes
  position := by
    intro i token htoken
    cases i with
    | zero =>
      cases htoken
      simp [interleave]
    | succ i =>
      have hposition := h.position i token htoken
      simp only [List.take_succ_cons, interleave, List.length_append]
      omega

/-- The text of a clause is a token of the kind that the clause says. -/
theorem denotes_of_clause? {cs text rest : List Char} {position : Nat} {kind : Kind}
    (found : clause? cs = some (text, rest)) (kindOf_eq : kindOf .clause text position = .ok kind) :
    Denotes text kind := by
  obtain ⟨c, -, rfl⟩ := map_eq_ok.1 kindOf_eq
  refine .condition (isClause_of_clause? found) fun position' => ?_
  obtain ⟨c', hc', heq⟩ := map_eq_ok.1 (kindOf_eq_ok_of_eq_ok kindOf_eq position')
  cases heq
  exact hc'

/-- The text of a lexeme is a token of the kind that it says. -/
theorem denotes_of_atStart? {before : Option Char} {cs text rest : List Char} {lexeme : Lexeme}
    {position : Nat} {kind : Kind} (found : atStart? before cs = some (lexeme, text, rest))
    (kindOf_eq : kindOf lexeme text position = .ok kind) : Denotes text kind := by
  obtain ⟨k, hk, rfl, rfl⟩ | ⟨rfl, rfl⟩ | ⟨rfl, rfl⟩ | ⟨rfl, hclause⟩ := atStart?_cases found
  · cases kindOf_eq
    exact .connective hk
  · cases kindOf_eq
    exact .openParen
  · cases kindOf_eq
    exact .closeParen
  · exact denotes_of_clause? hclause kindOf_eq

/-- A text with tokens splits into white space and their texts. -/
theorem Scans.exists_splits {before : Option Char} {start : Nat} {cs : List Char}
    {tokens : List Token} (h : Scans before start cs tokens) :
    ∃ gaps texts, Splits start cs tokens gaps texts := by
  induction h with
  | blank blank => exact ⟨_, _, Splits.blank_text blank _⟩
  | lexeme blank found kindOf_eq _ ih =>
    obtain ⟨gaps, texts, hsplits⟩ := ih
    exact ⟨_, _, hsplits.cons blank (denotes_of_atStart? found kindOf_eq)⟩

/-- The positions of tokens ascend. -/
theorem Scans.pairwise_position {before : Option Char} {start : Nat} {cs : List Char}
    {tokens : List Token} (h : Scans before start cs tokens) :
    (∀ t ∈ tokens, start ≤ t.position) ∧ (tokens.map (·.position)).Pairwise (· < ·) := by
  induction h with
  | blank => simp
  | @lexeme before start gap text rest lexeme kind tokens blank found kindOf_eq follows ih =>
    obtain ⟨hbehind, hpairwise⟩ := ih
    have hlength : 0 < text.length := List.length_pos_iff.2 (eq_append_of_atStart? found).2
    constructor
    · refine List.forall_mem_cons.2 ⟨Nat.le_add_right _ _, fun t ht => ?_⟩
      have hle := hbehind t ht
      omega
    · refine List.pairwise_cons.2 ⟨List.forall_mem_map.2 fun t ht => ?_, hpairwise⟩
      have hle := hbehind t ht
      change start + gap.length < t.position
      omega

/-! ## Refused texts -/

/-- An error quotes a part of a text that stands behind `start` characters, with the number of
characters in front of the part. -/
inductive Quotes (start : Nat) (cs : List Char) : SyntaxError → Prop
  | unexpectedInput {front fragment behind : List Char} (eq : cs = front ++ (fragment ++ behind))
      (ne_nil : fragment ≠ []) (head : ∀ c ∈ fragment.head?, isBlank c = false)
      (last : ∀ c ∈ fragment.getLast?, isBlank c = false) :
      Quotes start cs (.unexpectedInput (start + front.length) (String.ofList fragment))
  | malformedComparison {front clause behind : List Char} (eq : cs = front ++ (clause ++ behind)) :
      Quotes start cs (.malformedComparison (start + front.length) (String.ofList clause))

/-- What is quoted stands in a longer text as well. -/
theorem Quotes.append {start : Nat} {cs : List Char} {e : SyntaxError} (h : Quotes start cs e)
    (suffix : List Char) : Quotes start (cs ++ suffix) e := by
  cases h with
  | unexpectedInput eq ne_nil head last =>
    exact .unexpectedInput (by rw [eq, List.append_assoc, List.append_assoc]) ne_nil head last
  | malformedComparison eq =>
    exact .malformedComparison (by rw [eq, List.append_assoc, List.append_assoc])

/-- What is quoted stands behind more characters with more in front. -/
theorem Quotes.behind {start : Nat} {front cs : List Char} {e : SyntaxError}
    (h : Quotes (start + front.length) cs e) : Quotes start (front ++ cs) e := by
  cases h with
  | @unexpectedInput front' fragment _ eq ne_nil head last =>
    rw [Nat.add_assoc, ← List.length_append]
    exact .unexpectedInput (by rw [eq, List.append_assoc]) ne_nil head last
  | malformedComparison eq =>
    rw [Nat.add_assoc, ← List.length_append]
    exact .malformedComparison (by rw [eq, List.append_assoc])

/-- What is quoted of a gap between two lexemes stands in it. -/
theorem quotes_of_gapFault? {start : Nat} {gap : List Char} {e : SyntaxError}
    (h : gapFault? start gap = some e) : Quotes start gap e := by
  unfold gapFault? at h
  dsimp only at h
  split at h
  · cases h
  · next hne =>
    cases h
    obtain ⟨behind, heq⟩ := exists_eq_append_trim gap
    obtain ⟨hhead, hlast⟩ := isBlank_ends_trim gap
    exact .unexpectedInput heq (mt List.isEmpty_iff.2 hne) hhead hlast

/-- Of a clause that does not split the whole is quoted. -/
theorem quotes_of_kindOf {before : Option Char} {start : Nat} {cs text rest : List Char}
    {lexeme : Lexeme} {e : SyntaxError} (found : atStart? before cs = some (lexeme, text, rest))
    (h : kindOf lexeme text start = .error e) : Quotes start text e := by
  obtain ⟨k, -, rfl, rfl⟩ | ⟨rfl, rfl⟩ | ⟨rfl, rfl⟩ | ⟨rfl, hclause⟩ := atStart?_cases found
  · cases h
  · cases h
  · cases h
  · have herror := map_eq_error.1 h
    unfold Condition.ofClause at herror
    split at herror
    · cases herror
    · cases herror
      have hwhole : text = [] ++ (text ++ []) := by rw [List.append_nil, List.nil_append]
      rw [(isClause_of_clause? hclause).trim_eq]
      exact .malformedComparison hwhole

/-- What is quoted of a refused text stands in it. -/
theorem quotes_of_scanFrom {before : Option Char} {start : Nat} {cs : List Char} {e : SyntaxError}
    (h : scanFrom before start cs = .error e) : Quotes start cs e := by
  fun_induction scanFrom before start cs generalizing e with
  | case1 before start cs hfind e' hfault =>
    cases h
    exact quotes_of_gapFault? hfault
  | case2 => cases h
  | case3 before start cs f hfind e' hfault =>
    cases h
    obtain ⟨heq, -⟩ := eq_append_of_find? hfind
    rw [heq, List.append_assoc]
    exact (quotes_of_gapFault? hfault).append _
  | case4 before start cs f hfind hfault =>
    rename_i hkind
    cases h
    obtain ⟨heq, -⟩ := eq_append_of_find? hfind
    rw [heq, List.append_assoc]
    exact ((quotes_of_kindOf (atStart?_of_find? hfind) hkind).append f.rest).behind
  | case5 before start cs f hfind hfault _ kind hkind e' hrest =>
    rename_i ih
    cases h
    obtain ⟨heq, -⟩ := eq_append_of_find? hfind
    rw [heq, List.append_assoc]
    exact (ih hrest).behind.behind
  | case6 => cases h

/-- The tokens of a text and white space in turn are the whole text, the positions of the tokens
count the characters in front of them and ascend, and what an error quotes of a refused text stands
at the position that the error has. -/
theorem scan_layout (source : String) :
    (∀ tokens, scan source = .ok tokens →
      (∃ gaps texts, Splits 0 source.toList tokens gaps texts) ∧
        (tokens.map (·.position)).Pairwise (· < ·)) ∧
      ∀ e, scan source = .error e → Quotes 0 source.toList e := by
  constructor
  · intro tokens h
    have hscans : Scans none 0 source.toList tokens := scans_iff.2 h
    exact ⟨hscans.exists_splits, hscans.pairwise_position.2⟩
  · exact fun e h => quotes_of_scanFrom h

/-- Characters of several bytes count once, and tokens need no white space between them. -/
theorem scan_layout_multibyte :
    (∃ gaps texts, Splits 0 "\u3000(é='ü')AND x='y'".toList
      [⟨.openParen, 1⟩, ⟨.condition ⟨"é", .eq, .text "ü"⟩, 2⟩, ⟨.closeParen, 7⟩,
        ⟨.connective .and, 8⟩, ⟨.condition ⟨"x", .eq, .text "y"⟩, 12⟩] gaps texts) ∧
      Quotes 0 "é='ü'  ?! x='y'".toList (.unexpectedInput 7 "?!") ∧
      Quotes 0 "é='ü' OR x='\n'".toList (.malformedComparison 9 "x='\n'") := by
  have htokens : scan "\u3000(é='ü')AND x='y'" =
      .ok [⟨.openParen, 1⟩, ⟨.condition ⟨"é", .eq, .text "ü"⟩, 2⟩, ⟨.closeParen, 7⟩,
        ⟨.connective .and, 8⟩, ⟨.condition ⟨"x", .eq, .text "y"⟩, 12⟩] := by decide +kernel
  have hunexpected : scan "é='ü'  ?! x='y'" = .error (.unexpectedInput 7 "?!") := by decide +kernel
  have hmalformed : scan "é='ü' OR x='\n'" = .error (.malformedComparison 9 "x='\n'") := by
    decide +kernel
  exact ⟨((scan_layout _).1 _ htokens).1, (scan_layout _).2 _ hunexpected,
    (scan_layout _).2 _ hmalformed⟩

end Rulebook.Token
