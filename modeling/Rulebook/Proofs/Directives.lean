import Rulebook.Proofs.Characters
import Rulebook.Proofs.Digits
import Rulebook.Proofs.Filters

/-!
# Directives are read as they are written

The text of a directive denotes the directive, where the names in it hold no character that ends
them and the value of its field is read from its own text (`Directive.IsPlain.read?_text`): of a
value that is so if it is a flag or an integer. So the text of a filter denotes a filter with the
same directives (`Filter.Keeps.exists_read?_text`); only its level may be less verbose, as
directives that were replaced are not written.
-/

namespace Rulebook

/-! ## Levels -/

namespace Level

/-- A level is known by its name. -/
theorem read?_name (l : Level) : read? l.name.toList = some l := by
  cases l <;> decide

/-- The name of a level starts as a directive does and ends with a letter. -/
theorem ends_name (l : Level) : (∃ c cs, l.name.toList = c :: cs ∧ Directive.isStart c = true) ∧
    ∀ c ∈ l.name.toList.getLast?, Text.isBlank c = false := by
  have hstart : ("oewidt".toList.all Directive.isStart) = true := by decide +kernel
  have hlast : ("frnoge".toList.all fun c => !Text.isBlank c) = true := by decide +kernel
  rw [List.all_eq_true] at hstart hlast
  cases l
  all_goals
    refine ⟨⟨_, _, rfl, hstart _ (by decide)⟩, ?_⟩
    rintro _ ⟨⟩
    simpa using hlast _ (by decide)

end Level

/-! ## Fields -/

namespace FieldValue

/-- A value that is read from its text, which stands inside braces behind an equals sign. -/
structure IsPlain (v : FieldValue) : Prop where
  read?_text : read? v.text.toList = some v
  noEquals : '=' ∉ v.text.toList
  noBrace : '\x7d' ∉ v.text.toList

/-- A flag is read from its text. -/
theorem isPlain_flag (b : Bool) : (flag b).IsPlain := by
  cases b <;> constructor <;> decide +kernel

/-- The text of a natural number is its digits. -/
theorem toList_text_natural (n : Nat) : (natural n).text.toList = Nat.toDigits 10 n := by
  change (Nat.repr n).toList = _
  simp [Nat.repr]

/-- The text of a negative integer is a minus and digits. -/
theorem toList_text_negSucc (n : Nat) :
    (integer (Int.negSucc n)).text.toList = '-' :: Nat.toDigits 10 (n + 1) := by
  change ("-" ++ Nat.repr (n + 1)).toList = _
  simp [Nat.repr]

/-- The digits of a number are read as the number. -/
theorem natural?_toDigits (n : Nat) : Numeral.natural? (Nat.toDigits 10 n) = some n := by
  have hall : (Nat.toDigits 10 n).all Text.isAsciiDigit = true :=
    List.all_eq_true.2 fun _ => Numeral.isAsciiDigit_of_mem_toDigits
  rw [Numeral.natural?, if_pos ⟨Nat.toDigits_ne_nil, hall⟩, Numeral.natValue_toDigits]

/-- No digit is one of the characters that end a value. -/
theorem notMem_toDigits {c : Char} (h : Text.isAsciiDigit c = false) (n : Nat) :
    c ∉ Nat.toDigits 10 n := by
  intro hc
  rw [Numeral.isAsciiDigit_of_mem_toDigits hc] at h
  cases h

/-- What starts with another letter is no flag. -/
theorem ne_flags {c : Char} (htrue : c ≠ 't') (hfalse : c ≠ 'f') (cs : List Char) :
    c :: cs ≠ "true".toList ∧ c :: cs ≠ "false".toList := by
  have hwords : "true".toList = ['t', 'r', 'u', 'e'] ∧ "false".toList = ['f', 'a', 'l', 's', 'e'] :=
    ⟨rfl, rfl⟩
  rw [hwords.1, hwords.2]
  exact ⟨fun h => htrue (List.cons.inj h).1, fun h => hfalse (List.cons.inj h).1⟩

/-- A natural number that 64 bits hold is read from its text. -/
theorem isPlain_natural {n : Nat} (h : n < 0x10000000000000000) : (natural n).IsPlain where
  read?_text := by
    obtain ⟨c, cs, hdigits⟩ := List.exists_cons_of_ne_nil (Nat.toDigits_ne_nil (b := 10) (n := n))
    have hread := natural?_toDigits n
    have hdigit : Text.isAsciiDigit c = true :=
      Numeral.isAsciiDigit_of_mem_toDigits (by rw [hdigits]; exact List.mem_cons_self)
    rw [hdigits] at hread
    have hplus : c ≠ '+' := Text.ne_of_class hdigit (by decide)
    obtain ⟨htrue, hfalse⟩ := ne_flags (Text.ne_of_class hdigit (by decide))
      (Text.ne_of_class hdigit (by decide)) cs
    have hunsigned : Numeral.unsigned? (c :: cs) = some n := by
      unfold Numeral.unsigned?
      split
      · next heq => exact absurd (List.cons.inj heq).1 hplus
      · exact hread
    have hfits : (some n).filter (· < 0x10000000000000000) = some n :=
      Option.filter_some_pos (decide_eq_true h)
    rw [toList_text_natural, hdigits, read?, if_neg htrue, if_neg hfalse, hunsigned, hfits]
  noEquals := by
    rw [toList_text_natural]
    exact notMem_toDigits (by decide) n
  noBrace := by
    rw [toList_text_natural]
    exact notMem_toDigits (by decide) n

/-- A negative integer that 64 bits hold is read from its text. -/
theorem isPlain_negSucc {n : Nat} (h : -0x8000000000000000 ≤ Int.negSucc n) :
    (integer (Int.negSucc n)).IsPlain where
  read?_text := by
    have hminus : Numeral.natural? ('-' :: Nat.toDigits 10 (n + 1)) = none :=
      if_neg (fun hall => by simp [Text.isAsciiDigit] at hall)
    have hunsigned : Numeral.unsigned? ('-' :: Nat.toDigits 10 (n + 1)) = none := hminus
    have hsigned : signed? ('-' :: Nat.toDigits 10 (n + 1)) = some (Int.negSucc n) := by
      rw [signed?, natural?_toDigits]
      rfl
    obtain ⟨htrue, hfalse⟩ := ne_flags (by decide : '-' ≠ 't') (by decide)
      (Nat.toDigits 10 (n + 1))
    have hfits : (some (Int.negSucc n)).filter (-0x8000000000000000 ≤ ·) = some (Int.negSucc n) :=
      Option.filter_some_pos (decide_eq_true h)
    rw [toList_text_negSucc, read?, if_neg htrue, if_neg hfalse, hunsigned, hsigned, hfits]
    rfl
  noEquals := by
    rw [toList_text_negSucc]
    exact List.not_mem_cons_of_ne_of_not_mem (by decide) (notMem_toDigits (by decide) _)
  noBrace := by
    rw [toList_text_negSucc]
    exact List.not_mem_cons_of_ne_of_not_mem (by decide) (notMem_toDigits (by decide) _)

end FieldValue

namespace FieldTest

/-- A test whose name and value are told apart. -/
structure IsPlain (t : FieldTest) : Prop where
  noEquals : '=' ∉ t.name.toList
  noBrace : '\x7d' ∉ t.name.toList
  nonempty : t.name ≠ "" ∨ t.value.isSome = true
  value : ∀ v ∈ t.value, v.IsPlain

variable {t : FieldTest}

/-- The text of a test denotes the test. -/
theorem IsPlain.read?_text (h : t.IsPlain) : read? t.text.toList = some t := by
  obtain ⟨name, value⟩ := t
  cases value with
  | none =>
    have htext : (⟨name, none⟩ : FieldTest).text = name := String.append_empty
    rw [htext, read?, Text.split_of_notMem h.noEquals]
    simp
  | some v =>
    have hv : v.IsPlain := h.value v rfl
    have htext :
        (⟨name, some v⟩ : FieldTest).text.toList = name.toList ++ '=' :: v.text.toList := by
      simp [text]
    rw [htext, read?, Text.split_append h.noEquals, Text.split_of_notMem hv.noEquals]
    simp [hv.read?_text]

/-- The text of a test ends in front of the brace. -/
theorem IsPlain.noBrace_text (h : t.IsPlain) : '\x7d' ∉ t.text.toList := by
  obtain ⟨name, value⟩ := t
  cases value with
  | none => simpa [text] using h.noBrace
  | some v => simpa [text] using ⟨h.noBrace, (h.value v rfl).noBrace⟩

/-- The text of a test is not empty. -/
theorem IsPlain.text_ne_nil (h : t.IsPlain) : t.text.toList ≠ [] := by
  obtain ⟨name, value⟩ := t
  cases value with
  | none => simpa [text] using h.nonempty
  | some v => simp [text]

end FieldTest

/-! ## Directives -/

namespace Directive

open Text

/-- A part between two places is what stands there. -/
theorem part_eq (front cs rest : List Char) :
    part (front ++ (cs ++ rest)) (byteCount front) (byteCount front + byteCount cs) = cs := by
  rw [part, dropBytes_byteCount, Nat.add_sub_cancel_left, takeBytes_byteCount]

/-- A level behind an equals sign. -/
theorem levelAfter?_name (l : Level) : levelAfter? l.name.toList = some l := by
  have hne : l.name.toList.isEmpty = false := by cases l <;> decide
  rw [levelAfter?, hne]
  exact l.read?_name

/-- Behind the closing bracket stands the level. -/
theorem closed?_eq (d : Directive) (front : List Char) (l : Level) :
    closed? d (front ++ ']' :: '=' :: l.name.toList) (byteCount front) ('=' :: l.name.toList) =
      some { d with level := l } := by
  have hplace : byteCount front + 2 = byteCount (front ++ [']', '=']) := by
    rw [byteCount_append]
    rfl
  have hitem : front ++ ']' :: '=' :: l.name.toList = front ++ [']', '='] ++ l.name.toList := by
    simp
  rw [closed?, hplace, hitem, dropBytes_byteCount, levelAfter?_name]
  rfl

variable {target : Option String} {span : List Char}

/-- Whether a character may stand in the name of a span. -/
def isSpanChar (c : Char) : Bool := c ≠ ']' && c ≠ '\x7b'

/-- Brackets around the name of a span. -/
theorem bracketed?_span (hspan : ∀ c ∈ span, isSpanChar c = true) (front : List Char) (l : Level) :
    bracketed? target (front ++ (span ++ ']' :: '=' :: l.name.toList)) (byteCount front)
      (span ++ ']' :: '=' :: l.name.toList) =
        some ⟨target, some (String.ofList span), none, l⟩ := by
  have htake : (span ++ ']' :: '=' :: l.name.toList).takeWhile isSpanChar = span :=
    (takeWhile_append_of_forall hspan _ (by rintro _ ⟨⟩; rfl)).1
  have hclosed := closed?_eq ⟨target, some (String.ofList span), none, .trace⟩ (front ++ span) l
  rw [List.append_assoc, byteCount_append] at hclosed
  unfold isSpanChar at htake
  rw [bracketed?]
  dsimp only
  rw [htake, part_eq, List.drop_left]
  exact hclosed

/-- Brackets around a field, behind the name of a span, if there is one. -/
theorem bracketed?_field (hspan : ∀ c ∈ span, isSpanChar c = true) {t : FieldTest} (ht : t.IsPlain)
    (front : List Char) (l : Level) :
    bracketed? target (front ++ (span ++ '\x7b' :: (t.text.toList ++ '\x7d' :: ']' :: '=' ::
        l.name.toList))) (byteCount front)
      (span ++ '\x7b' :: (t.text.toList ++ '\x7d' :: ']' :: '=' :: l.name.toList)) =
      some ⟨target, if span.isEmpty then none else some (String.ofList span), some t, l⟩ := by
  have hread := ht.read?_text
  have hbrace : ∀ c ∈ t.text.toList, (c ≠ '\x7d' : Bool) = true := by
    intro c hc
    refine decide_eq_true ?_
    rintro rfl
    exact ht.noBrace_text hc
  obtain ⟨c, cs, htext⟩ := List.exists_cons_of_ne_nil ht.text_ne_nil
  -- Each part is cut out by places in bytes, so the item is written as what is in front of the
  -- part, the part itself and what is behind it.
  generalize t.text.toList = text at *
  generalize hitem : front ++ (span ++ '\x7b' :: (text ++ '\x7d' :: ']' :: '=' :: l.name.toList)) =
    item
  have htake : (span ++ '\x7b' :: (text ++ '\x7d' :: ']' :: '=' :: l.name.toList)).takeWhile
      isSpanChar = span := (takeWhile_append_of_forall hspan _ (by rintro _ ⟨⟩; rfl)).1
  have hfield : (text ++ '\x7d' :: ']' :: '=' :: l.name.toList).takeWhile (· ≠ '\x7d') = text :=
    (takeWhile_append_of_forall hbrace _ (by rintro _ ⟨⟩; rfl)).1
  have hstop : byteCount (front ++ (span ++ ['\x7b'])) = byteCount front + byteCount span + 1 := by
    simp [byteCount_append, byteCount, Nat.add_assoc]
    rfl
  have hspanPart : part item (byteCount front) (byteCount front + byteCount span) = span := by
    rw [← hitem]
    exact part_eq front span _
  have hfieldPart : part item (byteCount front + byteCount span + 1)
      (byteCount front + byteCount span + 1 + byteCount text) = text := by
    have hfront : item = front ++ (span ++ ['\x7b']) ++
        (text ++ '\x7d' :: ']' :: '=' :: l.name.toList) := by simp [← hitem]
    rw [hfront, ← hstop]
    exact part_eq _ text _
  unfold isSpanChar at htake
  rw [bracketed?]
  dsimp only
  rw [htake, hspanPart, List.drop_left]
  split
  · next heq => exact absurd (List.cons.inj heq).1 (by decide)
  · next inner heq =>
    obtain rfl := (List.cons.inj heq).2
    rw [hfield, hfieldPart, List.drop_left]
    have hclosed := closed?_eq ⟨target, if span.isEmpty then none else some (String.ofList span),
      some t, .trace⟩ (front ++ (span ++ ['\x7b']) ++ (text ++ ['\x7d'])) l
    have hend : front ++ (span ++ ['\x7b']) ++ (text ++ ['\x7d']) ++ ']' :: '=' :: l.name.toList =
        item := by simp [← hitem]
    have hplace : byteCount (front ++ (span ++ ['\x7b']) ++ (text ++ ['\x7d'])) =
        byteCount front + byteCount span + 1 + byteCount text + 1 := by
      rw [byteCount_append, hstop, byteCount_append, ← Nat.add_assoc]
      rfl
    rw [hend, hplace] at hclosed
    subst htext
    change (FieldTest.read? (c :: cs)).bind _ = _
    rw [hread, Option.bind_some]
    exact hclosed
  · next hbracket => exact absurd rfl (hbracket _)

/-- A directive whose parts are told apart: its target starts as one does and ends in front of an
equals sign or a bracket, its span ends in front of a bracket or a brace, and an empty span has no
field. -/
structure IsPlain (d : Directive) : Prop where
  start : ∀ t ∈ d.target, ∃ c cs, t.toList = c :: cs ∧ isStart c = true
  target : ∀ t ∈ d.target, '=' ∉ t.toList ∧ '[' ∉ t.toList
  span : ∀ s ∈ d.span, ∀ c ∈ s.toList, isSpanChar c = true
  span_ne : ∀ s ∈ d.span, s = "" → d.field = none
  field : ∀ t ∈ d.field, t.IsPlain

/-- What stands between the brackets of a directive, and the brackets around it. -/
def bracketChars (d : Directive) : List Char :=
  if d.isDynamic then
    '[' :: ((d.span.getD "").toList ++
      ((d.field.map fun t => '\x7b' :: (t.text.toList ++ ['\x7d'])).getD [] ++ [']']))
  else []

/-- The text of a directive that has a name. -/
theorem toList_text {d : Directive} (h : d.target ≠ none ∨ d.isDynamic = true) :
    d.text.toList =
      (d.target.getD "").toList ++ (d.bracketChars ++ '=' :: d.level.name.toList) := by
  obtain ⟨target, span, field, level⟩ := d
  have hnamed : (target.isSome || (⟨target, span, field, level⟩ : Directive).isDynamic) = true := by
    cases target <;> simp_all
  rw [text, bracketChars]
  dsimp only
  rw [hnamed]
  cases (⟨target, span, field, level⟩ : Directive).isDynamic with
  | false => simp
  | true => cases field <;> simp

/-- What is white space starts no directive. -/
theorem isStart_whiteSpace : ∀ r ∈ whiteSpace.table.toList, ∀ i < r.2 - r.1 + 1,
    isStart (Char.ofNat (r.1 + i)) = false := by
  decide +kernel

/-- What starts a directive is no white space. -/
theorem isBlank_of_isStart {c : Char} (h : isStart c = true) : isBlank c = false := by
  cases hblank : isBlank c with
  | false => rfl
  | true =>
    obtain ⟨r, hr, hfirst, hlast⟩ := Ranges.exists_range_of_contains hblank
    have hstart := isStart_whiteSpace r (Array.mem_toList_iff.2 hr) (c.toNat - r.1) (by omega)
    rw [Nat.add_sub_cancel' hfirst, Char.ofNat_toNat, h] at hstart
    cases hstart

/-- What ends with the name of a level and starts with no white space is trimmed already. -/
theorem trim_append_name {front : List Char} {l : Level}
    (h : ∀ c ∈ (front ++ l.name.toList).head?, isBlank c = false) :
    trim (front ++ l.name.toList) = front ++ l.name.toList := by
  obtain ⟨⟨c, cs, hname, -⟩, hlast⟩ := l.ends_name
  refine trim_eq_self h ?_
  rw [List.getLast?_append, hname, List.getLast?_eq_some_getLast (List.cons_ne_nil c cs),
    Option.some_or, ← List.getLast?_eq_some_getLast, ← hname]
  exact hlast

/-- A bare level is one word. -/
theorem read?_name (l : Level) : read? l.name.toList = some (.bare l) := by
  cases l <;> decide +kernel

/-- An item that starts with a bracket has no target. -/
theorem read?_bracket {rest : List Char} (htrim : trim ('[' :: rest) = '[' :: rest) :
    read? ('[' :: rest) = bracketed? none ('[' :: rest) 1 rest := by
  rw [read?, htrim]
  rfl

/-- A target ends in front of an equals sign or a bracket. -/
theorem takeWhile_target {t : List Char} (rest : List Char) {stop : Char} (hequals : '=' ∉ t)
    (hbracket : '[' ∉ t) (hstop : stop = '=' ∨ stop = '[') :
    (t ++ stop :: rest).takeWhile (fun c => c ≠ '=' && c ≠ '[') = t := by
  refine (takeWhile_append_of_forall (fun c hc => ?_) _ ?_).1
  · rw [Bool.and_eq_true, decide_eq_true_eq, decide_eq_true_eq]
    exact ⟨fun h => hequals (h ▸ hc), fun h => hbracket (h ▸ hc)⟩
  · obtain rfl | rfl := hstop
    · rintro _ ⟨⟩
      rfl
    · rintro _ ⟨⟩
      rfl

/-- Behind a target stand brackets or a level. -/
theorem read?_target {c stop : Char} {cs rest : List Char} (hstart : isStart c = true)
    (hequals : '=' ∉ c :: cs) (hbracket : '[' ∉ c :: cs) (hstop : stop = '=' ∨ stop = '[')
    (htrim : trim (c :: cs ++ stop :: rest) = c :: cs ++ stop :: rest) :
    read? (c :: cs ++ stop :: rest) =
      if stop = '[' then bracketed? (some (String.ofList (c :: cs))) (c :: cs ++ stop :: rest)
        (byteCount (c :: cs) + 1) rest
      else (levelAfter? rest).map fun level =>
        ⟨some (String.ofList (c :: cs)), none, none, level⟩ := by
  have hword := takeWhile_target rest hequals hbracket hstop
  have hpart := part_eq [] (c :: cs) (stop :: rest)
  rw [List.nil_append, byteCount, Nat.zero_add] at hpart
  have hopen : c ≠ '[' := by
    rintro rfl
    exact hbracket List.mem_cons_self
  rw [read?, htrim, hword, hpart]
  split
  · next heq => cases heq
  · next heq => exact absurd (List.cons.inj heq).1 hopen
  · next heq =>
    obtain rfl := (List.cons.inj heq).1
    rw [hstart, List.drop_left]
    obtain rfl | rfl := hstop
    · have hplace : byteCount (c :: cs) + 1 = byteCount (c :: cs ++ ['=']) := by
        rw [byteCount_append]
        rfl
      have hitem : c :: cs ++ '=' :: rest = c :: cs ++ ['='] ++ rest := by simp
      rw [hplace, hitem, dropBytes_byteCount]
      rfl
    · rfl

/-- The brackets of a directive are read as they are written. -/
theorem IsPlain.exists_bracketed?_eq {d : Directive} (h : d.IsPlain) (hdynamic : d.isDynamic = true)
    (front : List Char) : ∃ inner, d.bracketChars = '[' :: inner ∧
      bracketed? d.target (front ++ '[' :: (inner ++ '=' :: d.level.name.toList))
        (byteCount front + 1) (inner ++ '=' :: d.level.name.toList) = some d := by
  obtain ⟨target, span, field, level⟩ := d
  have hplace : byteCount front + 1 = byteCount (front ++ ['[']) := by
    rw [byteCount_append]
    rfl
  have hspan : ∀ c ∈ (span.getD "").toList, isSpanChar c = true := by
    cases span with
    | none => nofun
    | some s => exact h.span s rfl
  refine ⟨_, if_pos hdynamic, ?_⟩
  rw [hplace]
  cases field with
  | none =>
    cases span with
    | none => cases hdynamic
    | some s =>
      have hread : bracketed? target _ _ _ = _ := bracketed?_span hspan (front ++ ['[']) level
      simpa using hread
  | some t =>
    have hread : bracketed? target _ _ _ = _ :=
      bracketed?_field hspan (h.field t rfl) (front ++ ['[']) level
    -- An empty name is read as no span, and an empty span has no field.
    have hname : (if (span.getD "").toList.isEmpty then none
        else some (String.ofList (span.getD "").toList)) = span := by
      cases span with
      | none => rfl
      | some s =>
        have hne : s ≠ "" := fun hs => Option.some_ne_none t (h.span_ne s rfl hs)
        simp [hne]
    rw [hname] at hread
    simpa using hread

/-- The text of a directive that has a name is trimmed already. -/
theorem IsPlain.trim_text {d : Directive} (h : d.IsPlain)
    (hnamed : d.target ≠ none ∨ d.isDynamic = true) : trim d.text.toList = d.text.toList := by
  have hhead : ∀ c ∈ d.text.toList.head?, isBlank c = false := by
    rw [toList_text hnamed]
    cases htarget : d.target with
    | some t =>
      obtain ⟨c, cs, ht, hstart⟩ := h.start t htarget
      rw [Option.getD_some, ht]
      rintro _ ⟨⟩
      exact isBlank_of_isStart hstart
    | none =>
      rw [bracketChars, if_pos (hnamed.resolve_left (by simp [htarget]))]
      rintro _ ⟨⟩
      decide
  rw [toList_text hnamed] at hhead ⊢
  have hsplit : (d.target.getD "").toList ++ (d.bracketChars ++ '=' :: d.level.name.toList) =
      (d.target.getD "").toList ++ (d.bracketChars ++ ['=']) ++ d.level.name.toList := by simp
  rw [hsplit] at hhead ⊢
  exact trim_append_name hhead

/-- A directive that is not dynamic has neither a span nor a field. -/
theorem eq_of_isDynamic_eq_false {d : Directive} (h : d.isDynamic = false) :
    d = ⟨d.target, none, none, d.level⟩ := by
  obtain ⟨target, span, field, level⟩ := d
  obtain ⟨hspan, hfield⟩ := Bool.or_eq_false_iff.1 h
  rw [Option.isSome_eq_false_iff, Option.isNone_iff_eq_none] at hspan hfield
  dsimp only at hspan hfield
  rw [hspan, hfield]

/-- The text of a directive denotes the directive. -/
theorem IsPlain.read?_text {d : Directive} (h : d.IsPlain) : read? d.text.toList = some d := by
  by_cases hnamed : d.target ≠ none ∨ d.isDynamic = true
  · have htrim := h.trim_text hnamed
    rw [toList_text hnamed] at htrim ⊢
    cases htarget : d.target with
    | none =>
      obtain ⟨inner, hinner, hread⟩ :=
        h.exists_bracketed?_eq (hnamed.resolve_left (by simp [htarget])) []
      rw [htarget, hinner] at htrim
      rw [htarget] at hread
      rw [hinner]
      exact (read?_bracket htrim).trans hread
    | some t =>
      obtain ⟨c, cs, ht, hstart⟩ := h.start t htarget
      obtain ⟨hequals, hbracket⟩ := h.target t htarget
      rw [htarget, Option.getD_some, ht] at htrim
      rw [ht] at hequals hbracket
      rw [Option.getD_some, ht]
      cases hdynamic : d.isDynamic with
      | true =>
        obtain ⟨inner, hinner, hread⟩ := h.exists_bracketed?_eq hdynamic (c :: cs)
        rw [hinner] at htrim ⊢
        rw [htarget, ← String.ofList_toList (s := t), ht] at hread
        exact (read?_target hstart hequals hbracket (.inr rfl) htrim).trans hread
      | false =>
        have hempty : d.bracketChars = [] := if_neg (by simp [hdynamic])
        rw [hempty] at htrim ⊢
        refine (read?_target hstart hequals hbracket (.inl rfl) htrim).trans ?_
        rw [if_neg (by decide), levelAfter?_name, ← ht, String.ofList_toList, ← htarget,
          eq_of_isDynamic_eq_false hdynamic]
        rfl
  · -- Without a target and brackets the text is only the name of the level.
    obtain ⟨htarget, hdynamic⟩ := not_or.1 hnamed
    have hbare : d = .bare d.level := by
      rw [eq_of_isDynamic_eq_false (Bool.eq_false_iff.2 hdynamic), not_not.1 htarget]
      rfl
    have htext : d.text = d.level.name := by
      rw [hbare]
      exact String.empty_append
    rw [htext, read?_name, ← hbare]

/-- The text of a directive is not empty. -/
theorem IsPlain.text_ne_nil {d : Directive} (h : d.IsPlain) : d.text.toList ≠ [] := by
  intro hnil
  have hread := h.read?_text
  rw [hnil] at hread
  cases hread

end Directive

/-! ## Filters -/

namespace Filter

/-- Texts without commas, with commas between them, are the pieces between the commas. -/
theorem split_intercalate {t : String} {texts : List String}
    (h : ∀ u ∈ t :: texts, ',' ∉ u.toList) :
    Text.split ',' (",".intercalate (t :: texts)).toList = (t :: texts).map String.toList := by
  induction texts generalizing t with
  | nil =>
    rw [String.intercalate_singleton, Text.split_of_notMem (h t List.mem_cons_self)]
    rfl
  | cons u texts ih =>
    obtain ⟨ht, hrest⟩ := List.forall_mem_cons.1 h
    have hsplit : (t ++ "," ++ ",".intercalate (u :: texts)).toList =
        t.toList ++ ',' :: (",".intercalate (u :: texts)).toList := by simp
    rw [String.intercalate_cons_cons, hsplit, Text.split_append ht, ih hrest]
    rfl

/-- The items of texts with commas between them are the texts. -/
theorem items_intercalate {texts : List String} (h : ∀ t ∈ texts, t.toList ≠ [] ∧ ',' ∉ t.toList) :
    items (",".intercalate texts) = texts.map String.toList := by
  cases texts with
  | nil => rfl
  | cons t texts =>
    rw [items, split_intercalate fun u hu => (h u hu).2]
    refine List.filter_eq_self.2 fun piece hpiece => ?_
    obtain ⟨u, hu, rfl⟩ := List.mem_map.1 hpiece
    simp [(h u hu).1]

/-- The text of a filter denotes a filter with the same directives, where the text of each of them
denotes the directive and has no comma. -/
theorem Keeps.exists_read?_text {f : Filter} {ds : List Directive} (h : f.Keeps ds)
    (plain : ∀ d ∈ f.statics ++ f.dynamics, d.IsPlain ∧ ',' ∉ d.text.toList) :
    ∃ g, read? f.text = some g ∧ g.statics = f.statics ∧ g.dynamics = f.dynamics := by
  have hitems : items f.text = (f.statics ++ f.dynamics).map (·.text.toList) := by
    rw [text, items_intercalate, List.map_map]
    · rfl
    · intro t ht
      obtain ⟨d, hd, rfl⟩ := List.mem_map.1 ht
      exact ⟨(plain d hd).1.text_ne_nil, (plain d hd).2⟩
  have hread : (items f.text).mapM Directive.read? = some (f.statics ++ f.dynamics) := by
    rw [hitems, mapM_eq_some_iff, List.map_map]
    exact List.map_congr_left fun d hd => (plain d hd).1.read?_text
  -- A directive of both lists is written twice; added again it takes its own place.
  refine ⟨(f.statics ++ f.dynamics).foldl Filter.add empty, by rw [read?, hread]; rfl, ?_⟩
  have hkeeps := keeps_foldl (f.statics ++ f.dynamics)
  constructor
  · refine hkeeps.statics_descending.eq_of_mem_iff h.statics_descending fun d => ?_
    rw [(hkeeps.mem_iff d).1, lastOf_eq_some_iff_mem h.statics_descending fun e =>
      (h.mem_iff_mem_append e).1]
  · refine hkeeps.dynamics_descending.eq_of_mem_iff h.dynamics_descending fun d => ?_
    rw [(hkeeps.mem_iff d).2, lastOf_eq_some_iff_mem h.dynamics_descending fun e =>
      (h.mem_iff_mem_append e).2]

end Filter

end Rulebook
