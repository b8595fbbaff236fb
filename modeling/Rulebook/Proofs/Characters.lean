import Rulebook.Text.Blank
import Rulebook.Text.Word

/-!
# Classes of characters

The signs of a rule text are in no class, the ten ASCII digits are digits and the letters are none,
and no white space is part of a word. The search of a table is known to find only what is in a range
of it, so a statement about all members of a class is one about the code points of its ranges.

The longest start of a text that lies in a class stays the longest one when more follows, unless
the class goes on there (`takeWhile_append_of_stops`).
-/

namespace Rulebook.Text

/-! ## Signs, digits and letters -/

/-- A space and a line feed are white space. -/
theorem isBlank_space_lineFeed : isBlank ' ' = true ∧ isBlank '\n' = true := ⟨rfl, rfl⟩

/-- The space that stands between the parts of a printed text is white space. -/
theorem isBlank_of_mem_space : ∀ c ∈ [' '], isBlank c = true :=
  List.forall_mem_singleton.2 isBlank_space_lineFeed.1

/-- The signs that rule texts and numerals are written with. -/
def signs : List Char := ['(', ')', '<', '>', '=', '\'', '-', '+', '.']

/-- A sign is neither a part of a word nor white space. -/
theorem isWord_isBlank_signs {c : Char} (h : c ∈ signs) : isWord c = false ∧ isBlank c = false := by
  have hall : (signs.all fun c => !isWord c && !isBlank c) = true := by decide +kernel
  simpa using List.all_eq_true.1 hall c h

/-- A sign is no part of a word. -/
theorem isWord_sign {c : Char} (h : c ∈ signs) : isWord c = false := (isWord_isBlank_signs h).1

/-- A sign is no white space. -/
theorem isBlank_sign {c : Char} (h : c ∈ signs) : isBlank c = false := (isWord_isBlank_signs h).2

/-- A sign is no digit. -/
theorem isDigit_sign {c : Char} (h : c ∈ signs) : isDigit c = false :=
  Bool.eq_false_iff.2 fun hdigit => by
    have hword := isWord_of_isDigit hdigit
    rw [isWord_sign h] at hword
    cases hword

/-- A character of a class is none of those outside it. -/
theorem ne_of_class {p : Char → Bool} {c d : Char} (hc : p c = true) (hd : p d = false) :
    c ≠ d := by
  rintro rfl
  rw [hc] at hd
  cases hd

/-- The ten ASCII digits are digits of a script that rules may be written in. -/
theorem isDigit_ofNat : ∀ i < 10, isDigit (Char.ofNat ('0'.toNat + i)) = true := by
  decide +kernel

/-- An ASCII digit is a digit. -/
theorem isDigit_of_isAsciiDigit {c : Char} (h : isAsciiDigit c = true) : isDigit c = true := by
  unfold isAsciiDigit at h
  simp only [Bool.and_eq_true, decide_eq_true_eq, Char.le_def, UInt32.le_iff_toNat_le] at h
  have hfirst : '0'.toNat ≤ c.toNat := h.1
  have hlast : c.toNat ≤ '0'.toNat + 9 := h.2
  have hdigit := isDigit_ofNat (c.toNat - '0'.toNat) (by omega)
  rwa [Nat.add_sub_cancel' hfirst, Char.ofNat_toNat] at hdigit

/-- No letter of ASCII is a digit. -/
theorem isDigit_letter : ∀ i < 26, isDigit (Char.ofNat ('A'.toNat + i)) = false ∧
    isDigit (Char.ofNat ('a'.toNat + i)) = false := by
  decide +kernel

/-- A digit is not changed in lower case. -/
theorem toLower_of_isDigit {c : Char} (h : isDigit c = true) : c.toLower = c := by
  unfold Char.toLower
  split
  · next hcapital =>
    have hfirst : 'A'.toNat ≤ c.toNat := UInt32.le_iff_toNat_le.1 hcapital.1
    have hlast : c.toNat ≤ 'A'.toNat + 25 := UInt32.le_iff_toNat_le.1 hcapital.2
    have hdigit := (isDigit_letter (c.toNat - 'A'.toNat) (by omega)).1
    rw [Nat.add_sub_cancel' hfirst, Char.ofNat_toNat, h] at hdigit
    cases hdigit
  · rfl

/-! ## White space and words -/

/-- The white space of every range of the table is no word character. -/
theorem isWord_whiteSpace : ∀ r ∈ whiteSpace.table.toList, ∀ i < r.2 - r.1 + 1,
    isWord (Char.ofNat (r.1 + i)) = false := by
  decide +kernel

/-- White space is no part of a word. -/
theorem isWord_of_isBlank {c : Char} (h : isBlank c = true) : isWord c = false := by
  obtain ⟨r, hr, hfirst, hlast⟩ := Ranges.exists_range_of_contains h
  have hword := isWord_whiteSpace r (Array.mem_toList_iff.2 hr) (c.toNat - r.1) (by omega)
  rwa [Nat.add_sub_cancel' hfirst, Char.ofNat_toNat] at hword

/-- No character of a word is white space. -/
theorem isBlank_of_isWord {c : Char} (h : isWord c = true) : isBlank c = false := by
  cases hblank : isBlank c with
  | false => rfl
  | true =>
    rw [isWord_of_isBlank hblank] at h
    cases h

/-! ## The ends of a class -/

/-- A class ends where a text ends, or where more follows that does not start in the class. -/
theorem takeWhile_append_of_stops {p : Char → Bool} (cs rest : List Char)
    (h : cs.dropWhile p = [] → ∀ c ∈ rest.head?, p c = false) :
    (cs ++ rest).takeWhile p = cs.takeWhile p ∧
      (cs ++ rest).dropWhile p = cs.dropWhile p ++ rest := by
  induction cs with
  | nil =>
    cases rest with
    | nil => exact ⟨rfl, rfl⟩
    | cons c rest =>
      have hc : p c = false := h rfl c rfl
      simp [hc]
  | cons c cs ih =>
    rw [List.dropWhile_cons] at h
    rw [List.cons_append, List.takeWhile_cons, List.dropWhile_cons, List.takeWhile_cons,
      List.dropWhile_cons]
    split
    · next hc =>
      rw [if_pos hc] at h
      obtain ⟨htake, hdrop⟩ := ih h
      exact ⟨by rw [htake], hdrop⟩
    · exact ⟨rfl, rfl⟩

/-- A row of characters of a class is the longest one where the class ends behind it. -/
theorem takeWhile_append_of_forall {p : Char → Bool} {cs : List Char}
    (hcs : ∀ c ∈ cs, p c = true) (rest : List Char) (hrest : ∀ c ∈ rest.head?, p c = false) :
    (cs ++ rest).takeWhile p = cs ∧ (cs ++ rest).dropWhile p = rest := by
  rw [List.takeWhile_append_of_pos hcs, List.dropWhile_append_of_pos hcs]
  cases rest with
  | nil => exact ⟨List.append_nil cs, rfl⟩
  | cons c rest =>
    have hc : p c = false := hrest c rfl
    simp [hc]

/-- A text without white space at either end is trimmed already. -/
theorem trim_eq_self {cs : List Char} (hhead : ∀ c ∈ cs.head?, isBlank c = false)
    (hlast : ∀ c ∈ cs.getLast?, isBlank c = false) : trim cs = cs := by
  have hkeep {cs : List Char} (h : ∀ c ∈ cs.head?, isBlank c = false) :
      cs.dropWhile isBlank = cs := by
    cases cs with
    | nil => rfl
    | cons c cs =>
      have hc : isBlank c = false := h c rfl
      simp [hc]
  rw [trim, trimStart, hkeep hhead, trimEnd, hkeep (by rwa [List.head?_reverse]),
    List.reverse_reverse]

/-- What is left of a text without a class in front starts outside the class. -/
theorem head?_dropWhile_eq_false {p : Char → Bool} (cs : List Char) :
    ∀ c ∈ (cs.dropWhile p).head?, p c = false := by
  intro c hc
  have hnot := List.head?_dropWhile_not p cs
  rw [Option.mem_def.1 hc] at hnot
  simpa using hnot

/-- What is behind the first character after a cut is shorter than the text. -/
theorem length_lt_of_drop {n : Nat} {c : Char} {cs rest : List Char} (h : cs.drop n = c :: rest) :
    rest.length < cs.length := by
  have hle := (List.drop_suffix n cs).length_le
  rwa [h] at hle

/-- Trimming the end takes off an end. -/
theorem exists_trimStart_eq (cs : List Char) : ∃ behind, trimStart cs = trim cs ++ behind := by
  obtain ⟨front, hfront⟩ := List.dropWhile_suffix (l := (trimStart cs).reverse) isBlank
  exact ⟨front.reverse, by rw [trim, trimEnd, ← List.reverse_append, hfront, List.reverse_reverse]⟩

/-- A trimmed text stands in the text behind the white space in front. -/
theorem exists_eq_append_trim (cs : List Char) :
    ∃ behind, cs = cs.takeWhile isBlank ++ (trim cs ++ behind) := by
  obtain ⟨behind, hbehind⟩ := exists_trimStart_eq cs
  exact ⟨behind, by rw [← hbehind, trimStart, List.takeWhile_append_dropWhile]⟩

/-- A trimmed text has no white space at its ends. -/
theorem isBlank_ends_trim (cs : List Char) :
    (∀ c ∈ (trim cs).head?, isBlank c = false) ∧ ∀ c ∈ (trim cs).getLast?, isBlank c = false := by
  constructor
  · intro c hc
    obtain ⟨behind, hbehind⟩ := exists_trimStart_eq cs
    refine head?_dropWhile_eq_false cs c ?_
    change c ∈ (trimStart cs).head?
    rw [hbehind, List.head?_append, Option.mem_def.1 hc]
    rfl
  · rw [trim, trimEnd, List.getLast?_reverse]
    exact head?_dropWhile_eq_false _

end Rulebook.Text
