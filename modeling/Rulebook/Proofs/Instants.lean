import Rulebook.Proofs.Bodies
import Rulebook.Proofs.Calendar
import Rulebook.Proofs.JsonText
import Rulebook.Proofs.Numerals
import Rulebook.Rule.Stored

/-!
# Moments are read as they are written

The moments that texts denote are those of the years that are read, with a leap second only where a
minute ends (`IsProper`), and the text of such a moment denotes it (`exists_read?_eq_iff`). So a
stored rule comes back whole from its JSON text (`StoredRule.read_text`).
-/

namespace Rulebook

namespace Instant

open Numeral Text

/-- A moment of a year that is read, with less than a second on top of its seconds, or with less
than two if it is in a leap second, which is at the end of a minute. -/
structure IsProper (t : Instant) : Prop where
  inYears : inYears (Date.ofDayNumber (t.seconds / daySeconds)).year = true
  nanos_lt : t.nanos < secondNanos ∨ t.nanos < 2 * secondNanos ∧ t.seconds % 60 = 59

/-! ## Fields -/

/-- A number with zeros in front is made of digits. -/
theorem isAsciiDigit_of_mem_padded {width n : Nat} {c : Char} (h : c ∈ padded width n) :
    isAsciiDigit c = true := by
  obtain hzero | hdigit := List.mem_append.1 h
  · exact Plain.isAsciiDigit_of_mem_replicate hzero
  · exact isAsciiDigit_of_mem_toDigits hdigit

/-- A number with zeros in front is read as the number. -/
theorem natValue_padded (width n : Nat) : natValue (padded width n) = n :=
  (Plain.natValue_zeros_append _ _).trans (natValue_toDigits n)

/-- Zeros fill a number up. -/
theorem length_padded {width n : Nat} (pos : 0 < width) (lt : n < Nat.pow 10 width) :
    (padded width n).length = width := by
  have hle : (Nat.toDigits 10 n).length ≤ width := (Nat.length_toDigits_le_iff (by decide) pos).2 lt
  rw [padded, List.length_append, List.length_replicate]
  omega

/-- A number starts with a digit. -/
theorem exists_padded_eq_cons (width n : Nat) :
    ∃ c cs, padded width n = c :: cs ∧ isAsciiDigit c = true := by
  have hne : padded width n ≠ [] := List.append_ne_nil_of_right_ne_nil _ Nat.toDigits_ne_nil
  obtain ⟨c, cs, heq⟩ := List.exists_cons_of_ne_nil hne
  exact ⟨c, cs, heq, isAsciiDigit_of_mem_padded (by rw [heq]; exact List.mem_cons_self)⟩

/-- No white space is in front of a digit. -/
theorem trimStart_cons {c : Char} (h : isBlank c = false) (cs : List Char) :
    trimStart (c :: cs) = c :: cs := by
  simp [trimStart, h]

/-- A digit is no white space. -/
theorem isBlank_of_isAsciiDigit {c : Char} (h : isAsciiDigit c = true) : isBlank c = false :=
  isBlank_of_isWord (isWord_of_isDigit (isDigit_of_isAsciiDigit h))

/-- A field is read up to where its digits end. -/
theorem field?_padded {most width n : Nat} {rest : List Char}
    (hlength : (padded width n).length ≤ most) (hrest : NoDigitFirst rest) :
    field? most (padded width n ++ rest) = some (n, rest) := by
  obtain ⟨c, cs, heq, hc⟩ := exists_padded_eq_cons width n
  have htrim : trimStart (padded width n ++ rest) = padded width n ++ rest := by
    rw [heq, List.cons_append]
    exact trimStart_cons (isBlank_of_isAsciiDigit hc) _
  have htake : ((padded width n ++ rest).take most).takeWhile isAsciiDigit = padded width n := by
    rw [List.take_append, List.take_of_length_le hlength]
    refine (takeWhile_append_of_forall (fun _ => isAsciiDigit_of_mem_padded) _ ?_).1
    intro d hd
    exact hrest d (by rw [List.head?_take] at hd; split at hd; cases hd; exact hd)
  have hne : (padded width n).isEmpty = false := by rw [heq]; rfl
  rw [field?, htrim, htake, hne, natValue_padded, List.drop_left]
  rfl

/-- What stands between two fields. -/
theorem behind?_cons {c : Char} (h : isBlank c = false) (rest : List Char) :
    behind? c (c :: rest) = some rest := by
  rw [behind?, trimStart_cons h]
  exact if_pos rfl

/-! ## Dates -/

/-- Behind a sign the digits of a year are read up to their end. -/
theorem field?_signed (width n : Nat) {rest : List Char} (hrest : NoDigitFirst rest) :
    (padded width n ++ rest).head?.any isAsciiDigit = true ∧
      field? (padded width n ++ rest).length (padded width n ++ rest) = some (n, rest) := by
  obtain ⟨c, cs, heq, hc⟩ := exists_padded_eq_cons width n
  refine ⟨by rw [heq]; exact hc, field?_padded ?_ hrest⟩
  rw [List.length_append]
  exact Nat.le_add_right _ _

/-- A year below zero. -/
theorem year?_minus {ds : List Char} (h : ds.head?.any isAsciiDigit = true) :
    year? ('-' :: ds) = (field? ds.length ds).map fun p => (-(p.1 : Int), p.2) := by
  rw [year?, trimStart_cons (by decide)]
  exact if_pos h

/-- A year with a sign that is not below zero. -/
theorem year?_plus {ds : List Char} (h : ds.head?.any isAsciiDigit = true) :
    year? ('+' :: ds) = (field? ds.length ds).map fun p => ((p.1 : Int), p.2) := by
  rw [year?, trimStart_cons (by decide)]
  exact if_pos h

/-- A year without a sign has four digits at most. -/
theorem year?_of_isAsciiDigit {c : Char} (h : isAsciiDigit c = true) (cs : List Char) :
    year? (c :: cs) = (field? 4 (c :: cs)).map fun p => ((p.1 : Int), p.2) := by
  rw [year?, trimStart_cons (isBlank_of_isAsciiDigit h)]
  split
  · next heq =>
    cases heq
    exact absurd h (by decide)
  · next heq =>
    cases heq
    exact absurd h (by decide)
  · rfl

/-- A year is read up to where its digits end. -/
theorem year?_yearChars (year : Int) {rest : List Char} (hrest : NoDigitFirst rest) :
    year? (yearChars year ++ rest) = some (year, rest) := by
  obtain ⟨hdigit, hfield⟩ := field?_signed 4 year.natAbs hrest
  unfold yearChars
  split
  · next hneg =>
    have hyear : -(year.natAbs : Int) = year := by omega
    rw [List.append_assoc, List.singleton_append, year?_minus hdigit, hfield, Option.map_some,
      hyear]
  · next hnonneg =>
    have hyear : (year.natAbs : Int) = year := by omega
    split
    · rw [List.append_assoc, List.singleton_append, year?_plus hdigit, hfield, Option.map_some,
        hyear]
    · next hfour =>
      have hlength : (padded 4 year.natAbs).length ≤ 4 :=
        Nat.le_of_eq (length_padded (by decide) (by change _ < 10000; omega))
      have hread := field?_padded hlength hrest
      obtain ⟨c, cs, heq, hc⟩ := exists_padded_eq_cons 4 year.natAbs
      rw [List.nil_append, heq, List.cons_append, year?_of_isAsciiDigit hc, ← List.cons_append,
        ← heq, hread, Option.map_some, hyear]

/-- Two digits are read up to where they end. -/
theorem field?_two {n : Nat} (lt : n < 100) {rest : List Char} (hrest : NoDigitFirst rest) :
    field? 2 (padded 2 n ++ rest) = some (n, rest) :=
  field?_padded (Nat.le_of_eq (length_padded (by decide) lt)) hrest

/-- What starts with a character that is no digit does not go on with one. -/
theorem noDigitFirst_cons {c : Char} (h : isAsciiDigit c = false) (rest : List Char) :
    NoDigitFirst (c :: rest) := by
  rintro _ ⟨⟩
  exact h

/-- The text of a date. -/
def dateChars (d : Date) : List Char :=
  yearChars d.year ++ '-' :: padded 2 d.month ++ '-' :: padded 2 d.day

/-- A date is read up to where its digits end. -/
theorem date?_dateChars {d : Date} (valid : d.isValid = true) (years : inYears d.year = true)
    {rest : List Char} (hrest : NoDigitFirst rest) :
    date? (dateChars d ++ rest) = some (d, rest) := by
  obtain ⟨-, hmonth, -, hday⟩ := (Date.isValid_iff d).1 valid
  have hlength := Date.monthLength_le d.year d.month
  have hminus (cs : List Char) : NoDigitFirst ('-' :: cs) := noDigitFirst_cons (by decide) cs
  have hbehind (cs : List Char) : behind? '-' ('-' :: cs) = some cs := behind?_cons (by decide) cs
  unfold dateChars date?
  rw [List.append_assoc, List.append_assoc, List.cons_append, List.cons_append,
    year?_yearChars d.year (hminus _)]
  simp only [Option.bind_eq_bind, Option.bind_some, hbehind]
  rw [field?_two (by omega) (hminus _)]
  simp only [Option.bind_some, hbehind]
  rw [field?_two (by omega) hrest]
  simp only [Option.bind_some]
  rw [if_pos (by rw [valid, years]; rfl)]
  rfl

/-! ## Times of day -/

/-- Nine digits at most are the billionths of a second that they stand for behind the point. -/
theorem fraction?_padded {width n : Nat} (pos : 0 < width) (le : width ≤ 9)
    (lt : n < Nat.pow 10 width) {rest : List Char} (hrest : NoDigitFirst rest) :
    fraction? ('.' :: padded width n ++ rest) = some (n * Nat.pow 10 (9 - width), rest) := by
  have hlength := length_padded pos lt
  have hdigits : ∀ c ∈ padded width n, isAsciiDigit c = true :=
    fun _ => isAsciiDigit_of_mem_padded
  obtain ⟨htake, hdrop⟩ := takeWhile_append_of_forall hdigits rest hrest
  have hne : (padded width n).isEmpty = false := by
    rw [List.isEmpty_eq_false_iff, ← List.length_pos_iff, hlength]
    exact pos
  have hnine : (padded width n).length ≤ 9 := by rw [hlength]; exact le
  rw [List.cons_append, fraction?, htake, hdrop, hne, List.take_of_length_le hnine,
    natValue_padded, hlength, Nat.min_eq_right le]
  rfl

/-- The places of a second are read as its billionths. -/
theorem fraction?_fractionChars {nanos : Nat} (lt : nanos < secondNanos) (rest : List Char) :
    fraction? (fractionChars nanos ++ 'Z' :: rest) = some (nanos, 'Z' :: rest) := by
  have hrest : NoDigitFirst ('Z' :: rest) := noDigitFirst_cons (by decide) rest
  have hlt : nanos < 1000000000 := lt
  unfold fractionChars
  split
  · next hzero =>
    rw [hzero]
    rfl
  · split
    · next hthree =>
      rw [fraction?_padded (by decide) (by decide) (by change _ < 1000; omega) hrest]
      change some (nanos / 1000000 * 1000000, _) = _
      rw [Nat.div_mul_cancel (Nat.dvd_of_mod_eq_zero hthree)]
    · split
      · next hsix =>
        rw [fraction?_padded (by decide) (by decide) (by change _ < 1000000; omega) hrest]
        change some (nanos / 1000 * 1000, _) = _
        rw [Nat.div_mul_cancel (Nat.dvd_of_mod_eq_zero hsix)]
      · rw [fraction?_padded (by decide) (by decide) hlt hrest]
        change some (nanos * 1, _) = _
        rw [Nat.mul_one]

/-- The places of a second or what follows them start with no digit. -/
theorem noDigitFirst_fractionChars (nanos : Nat) (rest : List Char) :
    NoDigitFirst (fractionChars nanos ++ 'Z' :: rest) := by
  unfold fractionChars
  split
  · exact noDigitFirst_cons (by decide) rest
  · split
    · exact noDigitFirst_cons (by decide) _
    · split
      · exact noDigitFirst_cons (by decide) _
      · exact noDigitFirst_cons (by decide) _

/-- Hours, minutes, seconds and the places of a second are read up to the name of universal time,
and the sixtieth second of a minute as a leap second. -/
theorem timeOfDay?_fields {hour minute second nanos : Nat} (hhour : hour ≤ 23)
    (hminute : minute ≤ 59) (hsecond : second ≤ 60) (hnanos : nanos < secondNanos)
    (rest : List Char) :
    timeOfDay? (padded 2 hour ++ ':' :: (padded 2 minute ++ ':' :: (padded 2 second ++
        (fractionChars nanos ++ 'Z' :: rest)))) =
      if second = 60 then some (hour * 3600 + minute * 60 + 59, secondNanos + nanos, 'Z' :: rest)
      else some (hour * 3600 + minute * 60 + second, nanos, 'Z' :: rest) := by
  have hcolon (cs : List Char) : NoDigitFirst (':' :: cs) := noDigitFirst_cons (by decide) cs
  have hbehind (cs : List Char) : behind? ':' (':' :: cs) = some cs := behind?_cons (by decide) cs
  unfold timeOfDay?
  rw [field?_two (by omega) (hcolon _)]
  simp only [Option.bind_eq_bind, Option.bind_some, hbehind]
  rw [field?_two (by omega) (hcolon _)]
  simp only [Option.bind_some, hbehind]
  rw [field?_two (by omega) (noDigitFirst_fractionChars nanos rest)]
  simp only [Option.bind_some]
  rw [fraction?_fractionChars hnanos, Option.bind_some, if_neg (by omega)]
  rfl

/-- The text of a time of day. -/
def timeChars (ofDay nanos : Nat) : List Char :=
  padded 2 (ofDay / 3600) ++ ':' :: (padded 2 (ofDay / 60 % 60) ++ ':' ::
    (padded 2 (ofDay % 60 + nanos / secondNanos) ++ fractionChars (nanos % secondNanos)))

/-- A time of day is read up to the name of universal time. -/
theorem timeOfDay?_timeChars {ofDay nanos : Nat} (hday : ofDay < 86400)
    (hnanos : nanos < secondNanos ∨ nanos < 2 * secondNanos ∧ ofDay % 60 = 59)
    (rest : List Char) :
    timeOfDay? (timeChars ofDay nanos ++ 'Z' :: rest) = some (ofDay, nanos, 'Z' :: rest) := by
  -- The second that is written is the sixtieth of its minute exactly in a leap second.
  obtain ⟨hleap, hplaces⟩ | ⟨hleap, hend, hplaces⟩ : nanos / secondNanos = 0 ∧
      nanos % secondNanos = nanos ∨ nanos / secondNanos = 1 ∧ ofDay % 60 = 59 ∧
        secondNanos + nanos % secondNanos = nanos := by
    unfold secondNanos at hnanos ⊢
    omega
  all_goals
    simp only [timeChars, List.append_assoc, List.cons_append]
    rw [timeOfDay?_fields (by omega) (by omega) (by omega) (Nat.mod_lt _ (by decide))]
  · rw [if_neg (by omega), hleap, hplaces, show ofDay / 3600 * 3600 + ofDay / 60 % 60 * 60 +
      (ofDay % 60 + 0) = ofDay by omega]
  · rw [if_pos (by omega), hplaces, show ofDay / 3600 * 3600 + ofDay / 60 % 60 * 60 + 59 = ofDay
      by omega]

/-! ## Moments -/

/-- The text of a moment is that of its date and that of its time of day. -/
theorem toList_text (t : Instant) : t.text.toList =
    dateChars (Date.ofDayNumber (t.seconds / daySeconds)) ++
      'T' :: (timeChars (t.seconds % daySeconds).toNat t.nanos ++ ['Z']) := by
  simp [text, dateChars, timeChars]

/-- The text of a moment denotes the moment. -/
theorem read?_text {t : Instant} (h : t.IsProper) : read? t.text.toList = some t := by
  have hday : 0 ≤ t.seconds % daySeconds ∧ t.seconds % daySeconds < daySeconds :=
    ⟨Int.emod_nonneg _ (by decide), Int.emod_lt_of_pos _ (by decide)⟩
  have hseconds : t.seconds / daySeconds * daySeconds + (t.seconds % daySeconds).toNat - 0 =
      t.seconds := by
    have := Int.mul_ediv_add_emod t.seconds daySeconds
    rw [Int.mul_comm] at this
    omega
  have hnanos : t.nanos < secondNanos ∨ t.nanos < 2 * secondNanos ∧
      (t.seconds % daySeconds).toNat % 60 = 59 := by
    obtain hlt | ⟨hlt, hend⟩ := h.nanos_lt
    · exact .inl hlt
    · refine .inr ⟨hlt, ?_⟩
      unfold daySeconds at hday ⊢
      omega
  rw [toList_text, read?, date?_dateChars (Date.isValid_ofDayNumber _) h.inYears
    (noDigitFirst_cons (by decide) _)]
  simp only [Option.bind_eq_bind, Option.bind_some, true_or, if_true]
  rw [timeOfDay?_timeChars (by unfold daySeconds at *; omega) hnanos]
  simp only [Option.bind_some]
  have hoffset : offset? ['Z'] = some (0, []) := rfl
  rw [trimStart_cons (by decide), hoffset, Date.dayNumber_ofDayNumber]
  simp only [Option.bind_some]
  rw [hseconds, if_pos (by rw [h.inYears]; rfl)]
  rfl

/-! ## What is read -/

/-- The places of a second are less than a second. -/
theorem lt_of_fraction? {cs rest : List Char} {nanos : Nat}
    (h : fraction? cs = some (nanos, rest)) : nanos < secondNanos := by
  unfold fraction? at h
  split at h
  · next cs =>
    generalize hds : cs.takeWhile isAsciiDigit = ds at h
    dsimp only at h
    split at h
    · cases h
    · obtain ⟨rfl, -⟩ := Prod.mk.inj (Option.some.inj h)
      have hdigits : ∀ c ∈ ds.take 9, isAsciiDigit c = true := by
        intro c hc
        rw [← hds] at hc
        exact List.all_eq_true.1 List.all_takeWhile c (List.mem_of_mem_take hc)
      have hlength : min 9 ds.length + (9 - min 9 ds.length) = 9 :=
        Nat.add_sub_cancel' (Nat.min_le_left ..)
      calc natValue (ds.take 9) * Nat.pow 10 (9 - min 9 ds.length)
          < Nat.pow 10 (ds.take 9).length * Nat.pow 10 (9 - min 9 ds.length) :=
            Nat.mul_lt_mul_of_pos_right (natValue_lt hdigits) (Nat.pow_pos (by decide))
        _ = Nat.pow 10 (min 9 ds.length + (9 - min 9 ds.length)) := by
            rw [List.length_take]
            exact (Nat.pow_add ..).symm
        _ = secondNanos := by
            rw [hlength]
            rfl
  · cases h
    decide

/-- A time of day has less than a second on top of its seconds, or less than two at the end of a
minute. -/
theorem nanos_lt_of_timeOfDay? {cs rest : List Char} {ofDay nanos : Nat}
    (h : timeOfDay? cs = some (ofDay, nanos, rest)) :
    nanos < secondNanos ∨ nanos < 2 * secondNanos ∧ ofDay % 60 = 59 := by
  unfold timeOfDay? at h
  obtain ⟨⟨hour, _⟩, -, h⟩ := Option.bind_eq_some_iff.1 h
  obtain ⟨_, -, h⟩ := Option.bind_eq_some_iff.1 h
  obtain ⟨⟨minute, _⟩, -, h⟩ := Option.bind_eq_some_iff.1 h
  obtain ⟨_, -, h⟩ := Option.bind_eq_some_iff.1 h
  obtain ⟨⟨second, _⟩, -, h⟩ := Option.bind_eq_some_iff.1 h
  obtain ⟨⟨places, _⟩, hplaces, h⟩ := Option.bind_eq_some_iff.1 h
  have hlt := lt_of_fraction? hplaces
  dsimp only at h
  split at h
  · cases h
  · split at h
    · cases h
      exact .inr ⟨by omega, by omega⟩
    · cases h
      exact .inl hlt

/-- An offset is one of whole minutes. -/
theorem emod_of_hoursAndMinutes? {negative : Bool} {cs rest : List Char} {offset : Int}
    (h : hoursAndMinutes? negative cs = some (offset, rest)) : offset % 60 = 0 := by
  unfold hoursAndMinutes? at h
  obtain ⟨⟨hours, _⟩, -, h⟩ := Option.bind_eq_some_iff.1 h
  obtain ⟨⟨minutes, _⟩, -, h⟩ := Option.bind_eq_some_iff.1 h
  dsimp only at h
  split at h
  · obtain ⟨rfl, -⟩ := Prod.mk.inj (Option.some.inj h)
    split <;> omega
  · cases h

/-- An offset is one of whole minutes, however it is written. -/
theorem emod_of_offset? {cs rest : List Char} {offset : Int}
    (h : offset? cs = some (offset, rest)) : offset % 60 = 0 := by
  unfold offset? at h
  split at h
  · cases h
    rfl
  · split at h
    · cases h
      rfl
    · cases h
      rfl
    · exact emod_of_hoursAndMinutes? h
    · exact emod_of_hoursAndMinutes? h
    · exact emod_of_hoursAndMinutes? h
    · cases h

/-- A moment that a text denotes is one of a year that is read, with a leap second at most at the
end of a minute. -/
theorem isProper_of_read? {cs : List Char} {t : Instant} (h : read? cs = some t) : t.IsProper := by
  simp only [read?, Option.bind_eq_bind] at h
  obtain ⟨⟨date, cs⟩, -, h⟩ := Option.bind_eq_some_iff.1 h
  -- Behind the date a letter or a blank is passed over, or nothing is read.
  split at h
  case h_2 => cases h
  split at h
  case isFalse => cases h
  rw [Option.bind_some] at h
  obtain ⟨⟨ofDay, nanos, _⟩, htime, h⟩ := Option.bind_eq_some_iff.1 h
  obtain ⟨⟨offset, _⟩, hoffset, h⟩ := Option.bind_eq_some_iff.1 h
  have hnanos := nanos_lt_of_timeOfDay? htime
  have hminutes := emod_of_offset? hoffset
  split at h
  · next hend =>
    cases h
    rw [Bool.and_eq_true] at hend
    refine ⟨hend.2, hnanos.imp_right fun ⟨hlt, hlast⟩ => ⟨hlt, ?_⟩⟩
    unfold daySeconds
    dsimp only
    omega
  · cases h

/-- The moments that texts denote are the proper ones. -/
theorem exists_read?_eq_iff (t : Instant) : (∃ cs, read? cs = some t) ↔ t.IsProper :=
  ⟨fun ⟨_, h⟩ => isProper_of_read? h, fun h => ⟨_, read?_text h⟩⟩

/-- Two moments with one text are the same. -/
theorem eq_of_text_eq {t u : Instant} (ht : t.IsProper) (hu : u.IsProper) (h : t.text = u.text) :
    t = u :=
  Option.some.inj <| calc some t = read? t.text.toList := (read?_text ht).symm
    _ = read? u.text.toList := by rw [h]
    _ = some u := read?_text hu

end Instant

/-! ## Stored rules -/

namespace StoredRule

/-- A string that denotes a moment is read as the moment. -/
theorem momentOfDraft_string {s : String} {t : Instant} (h : Instant.read? s.toList = some t) :
    momentOfDraft (.string (some s)) = .ok t := by
  rw [momentOfDraft, show Json.Draft.asString (.string (some s)) = .ok s from rfl, bind_eq_ok]
  exact ⟨s, rfl, by rw [h]; rfl⟩

/-- The members of a stored rule give the rule, if the last one denotes its moment. -/
theorem ofDraft_members {r : StoredRule} {moment : String}
    (h : Instant.read? moment.toList = some r.createdAt) :
    shape.ofDraft (.object [(some "id", .string (some r.id)),
      (some "ruleString", .string (some r.source)), (some "createdAt", .string (some moment))]
        true) = .ok r := by
  have hmoment : (do pure { (⟨some r.id, some r.source, none⟩ : Parts) with
      createdAt := some (← momentOfDraft (.string (some moment))) }) =
      Except.ok (⟨some r.id, some r.source, some r.createdAt⟩ : Parts) := by
    rw [momentOfDraft_string h]
    rfl
  have htaken : shape.takeMembers shape.start [(some "id", .string (some r.id)),
      (some "ruleString", .string (some r.source)), (some "createdAt", .string (some moment))] =
      .ok ⟨some r.id, some r.source, some r.createdAt⟩ := by
    refine Json.Shape.takeMembers_cons_eq_ok.2 ⟨_, rfl, .inr ⟨_, rfl, rfl, _, rfl, ?_⟩⟩
    refine Json.Shape.takeMembers_cons_eq_ok.2 ⟨_, rfl, .inr ⟨_, rfl, rfl, _, rfl, ?_⟩⟩
    exact Json.Shape.takeMembers_cons_eq_ok.2 ⟨_, rfl, .inr ⟨_, rfl, rfl, _, hmoment, rfl⟩⟩
  rw [Json.Shape.ofDraft, htaken]
  rfl

/-- A rule stored at a proper moment comes back from its JSON text. -/
theorem read_text (r : StoredRule) (h : r.createdAt.IsProper) :
    read r.toJson.text.toList = .ok r := by
  rw [read, Json.text, String.toList_ofList, Json.Shape.ofText, Json.Draft.readText_chars,
    Json.reread_eq_self (by simp [toJson, Json.doubles, Json.memberDoubles])]
  exact ofDraft_members (Instant.read?_text h)

end StoredRule

end Rulebook
