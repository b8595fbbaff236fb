import Rulebook.Proofs.Clauses
import Rulebook.Rule.Token

/-!
# The longest comparator

A text can start with two comparators, of which the shorter one is the first sign of the longer. A
clause is split at the longest one if and only if something stands behind it
(`Condition.comparator_eq_longest_iff`). Where a clause ends in a comparator of two signs, the
second sign is taken for the value, and the comparator is the first sign alone: `a<=` says that `a`
is less than the text `=`. No other clause is split at a comparator that is not the longest, and a
clause that ends in a comparator of one sign is malformed.
-/

namespace Rulebook

open Text

namespace Comparator

/-- The longest of the symbols that a text starts with. -/
structure IsLongest (symbol : String) (cs : List Char) : Prop where
  mem_symbols : symbol ∈ symbols
  starts : symbol.toList <+: cs
  length_le : ∀ other ∈ symbols, other.toList <+: cs → other.length ≤ symbol.length

/-- The symbol that is the first sign of a symbol of two signs. -/
def firstSign? : String → Option String
  | "<=" => some "<"
  | ">=" => some ">"
  | _ => none

/-- The symbols stand in a row with the longer ones in front. -/
theorem pairwise_length_symbols : symbols.Pairwise fun s t => t.length ≤ s.length := by decide

/-- A text that starts with a symbol starts with a longest one. -/
theorem exists_isLongest {symbol : String} {cs : List Char} (mem_symbols : symbol ∈ symbols)
    (starts : symbol.toList <+: cs) : ∃ longest, IsLongest longest cs := by
  have hfits : (symbols.find? fun s => s.toList.isPrefixOf cs).isSome = true :=
    List.find?_isSome.2 ⟨symbol, mem_symbols, List.isPrefixOf_iff_prefix.2 starts⟩
  obtain ⟨longest, hfind⟩ := Option.isSome_iff_exists.1 hfits
  obtain ⟨hlongest, front, behind, hsymbols, hfront⟩ := List.find?_eq_some_iff_append.1 hfind
  refine ⟨longest, List.mem_of_find?_eq_some hfind, List.isPrefixOf_iff_prefix.1 hlongest, ?_⟩
  intro other hother hstarts
  -- The symbols in front of the first one that fits do not fit, and those behind it are no longer.
  have hordered := pairwise_length_symbols
  rw [hsymbols] at hother hordered
  rcases List.mem_append.1 hother with hother | hother
  · have hnot := hfront other hother
    rw [List.isPrefixOf_iff_prefix.2 hstarts] at hnot
    cases hnot
  · rcases List.mem_cons.1 hother with rfl | hother
    · exact Nat.le_refl _
    · exact (List.pairwise_cons.1 (List.pairwise_append.1 hordered).2.1).1 other hother

/-- A symbol of one sign that is the longest is not followed by the second sign of another. -/
theorem IsLongest.head?_ne {symbol : String} {tail : List Char}
    (h : IsLongest symbol (symbol.toList ++ tail)) (longer : String)
    (mem_symbols : longer ∈ symbols)
    (signs : longer.toList = symbol.toList ++ ['=']) : tail.head? ≠ some '=' := by
  intro hhead
  obtain ⟨tail, rfl⟩ := List.head?_eq_some_iff.1 hhead
  have hstarts : longer.toList <+: symbol.toList ++ '=' :: tail := by
    rw [signs]
    exact ⟨tail, by simp⟩
  have hlength : longer.length = symbol.length + 1 := by
    rw [← String.length_toList, ← String.length_toList, signs, List.length_append]
    rfl
  have hle := h.length_le longer mem_symbols hstarts
  omega

/-- The symbols are tried on a text: first the longest one is, with what follows it, and then its
first sign, with the second one left in the text. -/
theorem IsLongest.findSome?_eq {β : Type} {symbol : String} {tail : List Char}
    (h : IsLongest symbol (symbol.toList ++ tail)) (read : String → List Char → Option β) :
    (symbols.findSome? fun tried =>
      (Lexeme.after? tried.toList (symbol.toList ++ tail)).bind (read tried)) =
      (read symbol tail).or ((firstSign? symbol).bind fun sign => read sign ('=' :: tail)) := by
  have hmem := h.mem_symbols
  simp only [symbols, List.mem_cons, List.not_mem_nil, or_false] at hmem
  rcases hmem with rfl | rfl | rfl | rfl | rfl
  · cases hread : read "<=" tail <;> cases hsign : read "<" ('=' :: tail) <;>
      simp [symbols, Lexeme.after?, firstSign?, hread, hsign]
  · cases hread : read ">=" tail <;> cases hsign : read ">" ('=' :: tail) <;>
      simp [symbols, Lexeme.after?, firstSign?, hread, hsign]
  · have hnot := h.head?_ne "<=" (by decide) rfl
    cases tail with
    | nil => cases hread : read "<" [] <;> simp [symbols, Lexeme.after?, firstSign?, hread]
    | cons d tail =>
      have hd : d ≠ '=' := by simpa using hnot
      cases hread : read "<" (d :: tail) <;>
        simp [symbols, Lexeme.after?, firstSign?, hread, hd.symm]
  · have hnot := h.head?_ne ">=" (by decide) rfl
    cases tail with
    | nil => cases hread : read ">" [] <;> simp [symbols, Lexeme.after?, firstSign?, hread]
    | cons d tail =>
      have hd : d ≠ '=' := by simpa using hnot
      cases hread : read ">" (d :: tail) <;>
        simp [symbols, Lexeme.after?, firstSign?, hread, hd.symm]
  · cases hread : read "=" tail <;> simp [symbols, Lexeme.after?, firstSign?, hread]

end Comparator

namespace Condition

/-- A clause goes, white space around it aside, from a field through white space if any to a
comparator, the longest one that stands there, and on to `tail`. -/
structure Opens (clause field : List Char) (symbol : String) (tail : List Char) : Prop where
  ne_nil : field ≠ []
  isWord : ∀ c ∈ field, isWord c = true
  exists_gap : ∃ gap, (∀ c ∈ gap, isBlank c = true) ∧
    trim clause = field ++ (gap ++ (symbol.toList ++ tail))
  longest : Comparator.IsLongest symbol (symbol.toList ++ tail)

/-- The second sign of a comparator is a value if nothing is behind it. -/
theorem value?_sign : (value? ['=']).map Literal.ofText = some (.text "=") := by
  decide +kernel

/-- What is no value is none either with the second sign of a comparator in front, unless it is
empty: a line feed that stands in it still does. -/
theorem value?_sign_append {tail : List Char} (ne_nil : tail ≠ [])
    (hlast : ∀ c ∈ tail.getLast?, isBlank c = false) (h : value? tail = none) :
    value? ('=' :: tail) = none := by
  have hsign : isBlank '=' = false := isBlank_sign (by simp [signs])
  have hnotBlank : tail.dropWhile isBlank ≠ [] := by
    intro hdrop
    have hblank := hlast _ (List.getLast?_eq_some_getLast ne_nil)
    rw [List.dropWhile_eq_nil_iff.1 hdrop _ (List.getLast_mem ne_nil)] at hblank
    cases hblank
  have hlineFeed : '\n' ∈ tail := by
    simp only [value?, List.isEmpty_iff, hnotBlank, false_or, ite_eq_left_iff, reduceCtorEq,
      imp_false, not_not] at h
    exact (List.dropWhile_suffix isBlank).subset h
  simp [value?, hsign, hlineFeed]

namespace Opens

variable {clause field tail : List Char} {symbol : String} {c : Condition}

/-- The text that ends a clause ends without white space. -/
theorem isBlank_getLast? (h : Opens clause field symbol tail) :
    ∀ c ∈ tail.getLast?, isBlank c = false := by
  obtain ⟨gap, -, heq⟩ := h.exists_gap
  have hends := (isBlank_ends_trim clause).2
  rw [heq] at hends
  intro c hc
  refine hends c ?_
  simp only [List.getLast?_append, Option.mem_def.1 hc, Option.some_or, Option.mem_def]

/-- The condition that an opened clause states: that of its comparator and the value behind it, and
if nothing is behind it, that of the first sign of the comparator and the text of the second. -/
theorem ofClause?_eq (h : Opens clause field symbol tail) :
    ofClause? (trim clause) =
      if tail = [] then
        (Comparator.firstSign? symbol).map fun sign =>
          ⟨String.ofList field, .ofSymbol sign, .text "="⟩
      else
        (value? tail).map fun value =>
          ⟨String.ofList field, .ofSymbol symbol, .ofText value⟩ := by
  obtain ⟨gap, hblank, heq⟩ := h.exists_gap
  obtain ⟨⟨hfield, hbehind⟩, -, hcomparator⟩ :=
    Lexeme.takeWhile_field_gap h.isWord hblank h.longest.mem_symbols tail
  have htried := h.longest.findSome?_eq fun symbol tail => do
    let value ← value? tail
    pure (⟨String.ofList field, .ofSymbol symbol, .ofText value⟩ : Condition)
  rw [ofClause?, heq, hfield, hbehind, hcomparator, if_neg (mt List.isEmpty_iff.1 h.ne_nil)]
  refine htried.trans ?_
  split
  · next hnil =>
    subst hnil
    obtain ⟨value, hvalue, hliteral⟩ := Option.map_eq_some_iff.1 value?_sign
    have hnone : value? [] = none := rfl
    cases Comparator.firstSign? symbol <;> simp [hnone, hvalue, hliteral]
  · next hne =>
    cases hvalue : value? tail with
    | some value => rfl
    | none =>
      have hsign := value?_sign_append hne h.isBlank_getLast? hvalue
      cases Comparator.firstSign? symbol <;> simp [hsign]

end Opens

/-- What a clause that is split states is stated without the white space around it. -/
theorem ofClause_eq_ok_iff {clause : List Char} {position : Nat} {c : Condition} :
    ofClause clause position = .ok c ↔ ofClause? (trim clause) = some c := by
  unfold ofClause
  split <;> simp [*]

/-- A clause that is split goes from the field of its condition to a longest comparator. -/
theorem exists_opens {clause : List Char} {position : Nat} {c : Condition}
    (h : ofClause clause position = .ok c) :
    ∃ symbol tail, Opens clause c.field.toList symbol tail := by
  have hsplit := ofClause_eq_ok_iff.1 h
  unfold ofClause? at hsplit
  dsimp only at hsplit
  split at hsplit
  · cases hsplit
  · next hfield =>
    obtain ⟨tried, hmem, hread⟩ := List.exists_of_findSome?_eq_some hsplit
    obtain ⟨rest, hafter, hrest⟩ := Option.bind_eq_some_iff.1 hread
    obtain ⟨value, -, hcondition⟩ := Option.bind_eq_some_iff.1 hrest
    obtain rfl := Option.some.inj hcondition
    have hbehind := Lexeme.eq_append_of_after? hafter
    obtain ⟨symbol, hlongest⟩ := Comparator.exists_isLongest hmem ⟨rest, hbehind.symm⟩
    obtain ⟨tail, htail⟩ := hlongest.starts
    refine ⟨symbol, tail, ?_, ?_, ⟨((trim clause).dropWhile isWord).takeWhile isBlank, ?_, ?_⟩, ?_⟩
    · rwa [String.toList_ofList, Ne, ← List.isEmpty_iff]
    · rw [String.toList_ofList]
      exact fun d hd => List.mem_takeWhile_imp hd
    · exact fun d hd => List.mem_takeWhile_imp hd
    · rw [String.toList_ofList, htail, List.takeWhile_append_dropWhile,
        List.takeWhile_append_dropWhile]
    · rwa [htail]

/-- A clause that is split goes from its field to a longest comparator, and whichever way it is read
so, the field is that of its condition, and it is split at that comparator exactly if something is
behind it. If nothing is, the comparator has two signs, of which the clause is split at the first,
and the second is its value. -/
theorem comparator_eq_longest_iff {clause : List Char} {position : Nat} {c : Condition}
    (h : ofClause clause position = .ok c) :
    (∃ symbol tail, Opens clause c.field.toList symbol tail) ∧
      ∀ field symbol tail, Opens clause field symbol tail →
        c.field = String.ofList field ∧ (c.comparator = .ofSymbol symbol ↔ tail ≠ []) ∧
          (tail = [] → (symbol = "<=" ∧ c.comparator = .lt ∨ symbol = ">=" ∧ c.comparator = .gt) ∧
            c.literal = .text "=") := by
  refine ⟨exists_opens h, fun field symbol tail hopens => ?_⟩
  have hsplit := ofClause_eq_ok_iff.1 h
  rw [hopens.ofClause?_eq] at hsplit
  split at hsplit
  · next hnil =>
    obtain ⟨sign, hsign, rfl⟩ := Option.map_eq_some_iff.1 hsplit
    have hmem := hopens.longest.mem_symbols
    simp only [Comparator.symbols, List.mem_cons, List.not_mem_nil, or_false] at hmem
    rcases hmem with rfl | rfl | rfl | rfl | rfl
    · obtain rfl : "<" = sign := Option.some.inj hsign
      simp [hnil, Comparator.ofSymbol]
    · obtain rfl : ">" = sign := Option.some.inj hsign
      simp [hnil, Comparator.ofSymbol]
    all_goals cases hsign
  · next hne =>
    obtain ⟨value, -, rfl⟩ := Option.map_eq_some_iff.1 hsplit
    simp [hne]

/-- The clause ` a <= ` says that `a` is less than the text `=`, and not that it is at most
something. -/
theorem comparator_eq_longest_iff_nothing_behind :
    ofClause " a <= ".toList 0 = .ok ⟨"a", .lt, .text "="⟩ ∧
      Opens " a <= ".toList "a".toList "<=" [] ∧ Comparator.lt ≠ .ofSymbol "<=" := by
  have hsplit : ofClause " a <= ".toList 0 = .ok ⟨"a", .lt, .text "="⟩ := by decide +kernel
  have hopens : Opens " a <= ".toList "a".toList "<=" [] :=
    { ne_nil := by decide
      isWord := List.forall_mem_singleton.2 (by decide +kernel)
      exists_gap := ⟨[' '], isBlank_of_mem_space, by decide +kernel⟩
      longest := ⟨by decide, by decide, by decide⟩ }
  refine ⟨hsplit, hopens, fun heq => ?_⟩
  have hiff := ((comparator_eq_longest_iff hsplit).2 _ _ _ hopens).2.1
  exact hiff.1 heq rfl

end Condition

end Rulebook
