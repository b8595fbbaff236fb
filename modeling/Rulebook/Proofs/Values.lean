import Rulebook.Proofs.Steps

/-!
# Values and lines of a TOML document

A grammar of values that counts no steps (`ReadsValue`): with as many steps as characters a value is
read exactly if it is one (`value?_eq_some_iff`). So a document is read alike in any number of steps
that is not less than that of its characters (`read?_eq`).
-/

namespace Rulebook.Toml

/-! ## Values -/

/-- A number, a flag, a date or a time takes at least one character. -/
theorem length_lt_of_wordValue? {cs rest : List Char} {s : Setting}
    (h : wordValue? cs = some (s, rest)) : rest.length < cs.length := by
  obtain ⟨value, hvalue, h⟩ := Option.map_eq_some_iff.1 h
  cases h
  have hword : wordOf cs ≠ [] := by
    intro hnil
    rw [hnil] at hvalue
    cases hvalue
  have hcs : cs ≠ [] := by
    rintro rfl
    exact hword rfl
  have := List.length_pos_iff.2 hword
  have := List.length_pos_iff.2 hcs
  rw [List.length_drop]
  omega

mutual

/-- A value in front of a text, in which brackets nest `depth` deep at most, and what follows it. -/
inductive ReadsValue : (depth : Nat) → List Char → Setting → List Char → Prop
  | string {depth : Nat} {cs rest body : List Char} (read : string? cs = some (body, rest)) :
      ReadsValue depth cs (.text (String.ofList body)) rest
  | word {depth : Nat} {cs rest : List Char} {s : Setting} (read : wordValue? cs = some (s, rest)) :
      ReadsValue depth cs s rest
  | array {depth : Nat} {cs rest : List Char} {items : List Setting}
      (read : ReadsItems depth cs items rest) :
      ReadsValue (depth + 1) ('[' :: cs) (.list items) rest
  | table {depth : Nat} {cs rest : List Char} {es : List (String × Node)}
      (read : ReadsPairs depth [] cs es rest) :
      ReadsValue (depth + 1) ('\x7b' :: cs) (.table (entrySettings es)) rest

/-- The items of an array up to its closing bracket, and what follows that. -/
inductive ReadsItems : (depth : Nat) → List Char → List Setting → List Char → Prop
  | closed {depth : Nat} {cs rest : List Char} (gap : skipGap cs.length cs = ']' :: rest) :
      ReadsItems depth cs [] rest
  | last {depth : Nat} {cs after rest : List Char} {item : Setting}
      (read : ReadsValue depth (skipGap cs.length cs) item after)
      (gap : skipGap after.length after = ']' :: rest) : ReadsItems depth cs [item] rest
  | cons {depth : Nat} {cs after behind rest : List Char} {item : Setting} {items : List Setting}
      (read : ReadsValue depth (skipGap cs.length cs) item after)
      (gap : skipGap after.length after = ',' :: behind)
      (others : ReadsItems depth behind items rest) : ReadsItems depth cs (item :: items) rest

/-- The entries of a table up to its closing brace, behind those in front, and what follows
that. -/
inductive ReadsPairs : (depth : Nat) → List (String × Node) → List Char →
    List (String × Node) → List Char → Prop
  | closed {depth : Nat} {es : List (String × Node)} {cs rest : List Char}
      (gap : skipGap cs.length cs = '\x7d' :: rest) : ReadsPairs depth es cs es rest
  | last {depth : Nat} {es es' : List (String × Node)} {cs behind after rest : List Char}
      {path : List String} {value : Setting}
      (key : key? (skipGap cs.length cs).length (skipGap cs.length cs) = some (path, '=' :: behind))
      (read : ReadsValue depth (skipSpaces behind) value after)
      (defined : define? value path es = some es')
      (gap : skipGap after.length after = '\x7d' :: rest) : ReadsPairs depth es cs es' rest
  | cons {depth : Nat} {es es' es'' : List (String × Node)} {cs behind after next rest : List Char}
      {path : List String} {value : Setting}
      (key : key? (skipGap cs.length cs).length (skipGap cs.length cs) = some (path, '=' :: behind))
      (read : ReadsValue depth (skipSpaces behind) value after)
      (defined : define? value path es = some es')
      (gap : skipGap after.length after = ',' :: next)
      (others : ReadsPairs depth es' next es'' rest) : ReadsPairs depth es cs es'' rest

end

mutual

/-- What is read as a value is one. -/
theorem ReadsValue.of_value? : ∀ {steps depth : Nat} {cs rest : List Char} {s : Setting},
    value? steps depth cs = some (s, rest) → ReadsValue depth cs s rest
  | 0, _, _, _, _, h => by cases h
  | steps + 1, depth, cs, rest, s, h => by
    -- The readers of values, of items and of entries call each other with one step less.
    unfold value? at h
    split at h
    · obtain ⟨⟨items, after⟩, hitems, h⟩ := Option.map_eq_some_iff.1 h
      cases h
      exact .array (.of_items? hitems)
    · obtain ⟨⟨es, after⟩, hes, h⟩ := Option.map_eq_some_iff.1 h
      cases h
      exact .table (.of_pairs? hes)
    · obtain ⟨⟨body, after⟩, hstring, h⟩ := Option.map_eq_some_iff.1 h
      cases h
      exact .string hstring
    · obtain ⟨⟨body, after⟩, hstring, h⟩ := Option.map_eq_some_iff.1 h
      cases h
      exact .string hstring
    · exact .word h

/-- What is read as the items of an array are such. -/
theorem ReadsItems.of_items? : ∀ {steps depth : Nat} {cs rest : List Char} {items : List Setting},
    items? steps depth cs = some (items, rest) → ReadsItems depth cs items rest
  | 0, _, _, _, _, h => by cases h
  | steps + 1, depth, cs, rest, items, h => by
    rw [items?] at h
    split at h
    · next hclosed =>
      cases h
      exact .closed hclosed
    · obtain ⟨⟨item, after⟩, hitem, h⟩ := Option.bind_eq_some_iff.1 h
      dsimp only at h
      split at h
      · next hclosed =>
        cases h
        exact .last (.of_value? hitem) hclosed
      · next hcomma =>
        obtain ⟨⟨others, last⟩, hothers, h⟩ := Option.bind_eq_some_iff.1 h
        cases h
        exact .cons (.of_value? hitem) hcomma (.of_items? hothers)
      · cases h

/-- What is read as the entries of a table are such. -/
theorem ReadsPairs.of_pairs? : ∀ {steps depth : Nat} {es es' : Entries} {cs rest : List Char},
    pairs? steps depth es cs = some (es', rest) → ReadsPairs depth es cs es' rest
  | 0, _, _, _, _, _, h => by cases h
  | steps + 1, depth, es, es', cs, rest, h => by
    rw [pairs?] at h
    split at h
    · next hclosed =>
      cases h
      exact .closed hclosed
    · obtain ⟨⟨path, after⟩, hkey, h⟩ := Option.bind_eq_some_iff.1 h
      dsimp only at h
      split at h
      · obtain ⟨⟨value, after⟩, hvalue, h⟩ := Option.bind_eq_some_iff.1 h
        obtain ⟨next, hdefine, h⟩ := Option.bind_eq_some_iff.1 h
        dsimp only at h
        split at h
        · next hclosed =>
          cases h
          exact .last hkey (.of_value? hvalue) hdefine hclosed
        · next hcomma => exact .cons hkey (.of_value? hvalue) hdefine hcomma (.of_pairs? h)
        · cases h
      · cases h

end

/-- The value of a key has less characters than the key and the value. -/
theorem length_lt_of_pair {steps : Nat} {path : List String} {cs behind : List Char}
    (key : key? (skipGap steps cs).length (skipGap steps cs) = some (path, '=' :: behind)) :
    (skipSpaces behind).length < cs.length := by
  have hkey := length_lt_of_key? key
  have hspaces := length_skipSpaces_le behind
  have hgap := length_skipGap_le steps cs
  simp only [List.length_cons] at hkey
  omega

mutual

/-- A value takes at least one character. -/
theorem ReadsValue.length_lt {depth : Nat} {cs rest : List Char} {s : Setting} :
    ReadsValue depth cs s rest → rest.length < cs.length
  | .string read => length_lt_of_string? read
  | .word read => length_lt_of_wordValue? read
  | .array read => Nat.lt_succ_of_lt read.length_lt
  | .table read => Nat.lt_succ_of_lt read.length_lt

/-- The items of an array take at least the closing bracket. -/
theorem ReadsItems.length_lt {depth : Nat} {cs rest : List Char} {items : List Setting} :
    ReadsItems depth cs items rest → rest.length < cs.length
  | .closed gap => length_lt_of_skipGap gap
  | .last read gap =>
    ((length_lt_of_skipGap gap).trans read.length_lt).trans_le (length_skipGap_le _ cs)
  | .cons read gap others =>
    ((others.length_lt.trans (length_lt_of_skipGap gap)).trans read.length_lt).trans_le
      (length_skipGap_le _ cs)

/-- The entries of a table take at least the closing brace. -/
theorem ReadsPairs.length_lt {depth : Nat} {es es' : Entries} {cs rest : List Char} :
    ReadsPairs depth es cs es' rest → rest.length < cs.length
  | .closed gap => length_lt_of_skipGap gap
  | .last key read _ gap =>
    ((length_lt_of_skipGap gap).trans read.length_lt).trans (length_lt_of_pair key)
  | .cons key read _ gap others =>
    ((others.length_lt.trans (length_lt_of_skipGap gap)).trans read.length_lt).trans
      (length_lt_of_pair key)

end

/-- A string starts with a quote. -/
theorem exists_eq_cons_of_string? {cs body rest : List Char} (h : string? cs = some (body, rest)) :
    ∃ c inner, cs = c :: inner ∧ (c = '"' ∨ c = '\'') := by
  unfold string? at h
  split at h
  · exact ⟨_, _, rfl, .inl rfl⟩
  · exact ⟨_, _, rfl, .inr rfl⟩
  · unfold lineString? at h
    split at h
    · exact ⟨_, _, rfl, .inl rfl⟩
    · exact ⟨_, _, rfl, .inr rfl⟩
    · cases h

/-- A word starts with a character of words. -/
theorem exists_eq_cons_of_wordValue? {cs rest : List Char} {s : Setting}
    (h : wordValue? cs = some (s, rest)) : ∃ c inner, cs = c :: inner ∧ isWordChar c = true := by
  cases cs with
  | nil => cases h
  | cons c inner =>
    cases hc : isWordChar c with
    | true => exact ⟨c, inner, rfl, hc⟩
    | false =>
      have hword : wordOf (c :: inner) = [] := by
        rw [wordOf, List.takeWhile_cons_of_neg (by simp [hc])]
        rfl
      rw [wordValue?, hword] at h
      cases h

/-- A value does not start with the bracket that closes an array. -/
theorem ReadsValue.ne_closed {depth : Nat} {cs rest inner : List Char} {s : Setting}
    (h : ReadsValue depth cs s rest) : cs ≠ ']' :: inner := by
  rintro rfl
  cases h with
  | string read =>
    obtain ⟨c, _, heq, rfl | rfl⟩ := exists_eq_cons_of_string? read
    all_goals exact absurd (List.cons.inj heq).1 (by decide)
  | word read =>
    obtain ⟨c, _, heq, hword⟩ := exists_eq_cons_of_wordValue? read
    obtain rfl := (List.cons.inj heq).1
    exact absurd hword (by decide)

/-- A key does not start with the brace that closes a table. -/
theorem ne_closed_of_key? {steps : Nat} {cs inner rest : List Char} {path : List String}
    (h : key? steps cs = some (path, rest)) : cs ≠ '\x7d' :: inner := by
  rintro rfl
  cases steps with
  | zero => cases h
  | succ steps => cases h

mutual

/-- As many steps as a value has characters read it. -/
theorem ReadsValue.value?_eq {steps depth : Nat} {cs rest : List Char} {s : Setting}
    (h : ReadsValue depth cs s rest) (hsteps : cs.length ≤ steps + rest.length) :
    value? steps depth cs = some (s, rest) := by
  -- The bound is on the characters of the value and not on all that are there: an item may start
  -- where its array does, with one step less, but the bracket behind it is not its own.
  have hlt := h.length_lt
  obtain ⟨steps, rfl⟩ := Nat.exists_eq_add_of_le' (show 1 ≤ steps by omega)
  cases h with
  | string read =>
    obtain ⟨c, inner, rfl, rfl | rfl⟩ := exists_eq_cons_of_string? read
    all_goals simp only [value?, read, Option.map_some]
  | word read =>
    obtain ⟨c, inner, rfl, hword⟩ := exists_eq_cons_of_wordValue? read
    have hne {d : Char} {tail : List Char} (hd : isWordChar d = false) :
        c :: inner ≠ d :: tail := by
      rintro ⟨⟩
      rw [hd] at hword
      cases hword
    unfold value?
    split
    · next heq => exact absurd heq (hne (by decide))
    · next heq => exact absurd heq (hne (by decide))
    · next heq => exact absurd heq (hne (by decide))
    · next heq => exact absurd heq (hne (by decide))
    · exact read
  | array read =>
    simp only [List.length_cons] at hsteps
    rw [value?, read.items?_eq (by omega)]
    rfl
  | table read =>
    simp only [List.length_cons] at hsteps
    rw [value?, read.pairs?_eq (by omega)]
    rfl

/-- As many steps as an array has characters read its items. -/
theorem ReadsItems.items?_eq {steps depth : Nat} {cs rest : List Char} {items : List Setting}
    (h : ReadsItems depth cs items rest) (hsteps : cs.length ≤ steps + rest.length) :
    items? steps depth cs = some (items, rest) := by
  have hlt := h.length_lt
  have hgap := length_skipGap_le cs.length cs
  obtain ⟨steps, rfl⟩ := Nat.exists_eq_add_of_le' (show 1 ≤ steps by omega)
  rw [items?]
  cases h with
  | closed gap => simp only [gap]
  | last read gap =>
    have hrest := length_lt_of_skipGap gap
    split
    · next heq => exact absurd heq read.ne_closed
    · rw [read.value?_eq (by omega)]
      simp only [Option.bind_eq_bind, Option.bind_some, gap]
      rfl
  | cons read gap others =>
    have hrest := length_lt_of_skipGap gap
    have hothers := others.length_lt
    have hvalue := read.length_lt
    split
    · next heq => exact absurd heq read.ne_closed
    · rw [read.value?_eq (by omega)]
      simp only [Option.bind_eq_bind, Option.bind_some, gap]
      rw [others.items?_eq (by omega)]
      rfl

/-- As many steps as a table in braces has characters read its entries. -/
theorem ReadsPairs.pairs?_eq {steps depth : Nat} {es es' : Entries} {cs rest : List Char}
    (h : ReadsPairs depth es cs es' rest) (hsteps : cs.length ≤ steps + rest.length) :
    pairs? steps depth es cs = some (es', rest) := by
  have hlt := h.length_lt
  obtain ⟨steps, rfl⟩ := Nat.exists_eq_add_of_le' (show 1 ≤ steps by omega)
  rw [pairs?]
  cases h with
  | closed gap => simp only [gap]
  | last key read defined gap =>
    have hpair := length_lt_of_pair key
    have hrest := length_lt_of_skipGap gap
    split
    · next heq => exact absurd heq (ne_closed_of_key? key)
    · simp only [Option.bind_eq_bind, key, Option.bind_some]
      rw [read.value?_eq (by omega)]
      simp only [Option.bind_some, defined, gap]
      rfl
  | cons key read defined gap others =>
    have hpair := length_lt_of_pair key
    have hrest := length_lt_of_skipGap gap
    have hothers := others.length_lt
    have hvalue := read.length_lt
    split
    · next heq => exact absurd heq (ne_closed_of_key? key)
    · simp only [Option.bind_eq_bind, key, Option.bind_some]
      rw [read.value?_eq (by omega)]
      simp only [Option.bind_some, defined, gap]
      exact others.pairs?_eq (by omega)

end

/-- With as many steps as characters a value is read exactly if it is one. -/
theorem value?_eq_some_iff {steps depth : Nat} {cs rest : List Char} {s : Setting}
    (h : cs.length ≤ steps) : value? steps depth cs = some (s, rest) ↔ ReadsValue depth cs s rest :=
  ⟨.of_value?, fun hreads => hreads.value?_eq (by omega)⟩

/-! ## Lines -/

/-- A line is a header in double brackets, a header, or a key with its value. -/
theorem Document.cases_of_line? {d d' : Document} {cs rest : List Char}
    (h : d.line? cs = some (d', rest)) :
    (∃ inner closed, cs = '[' :: '[' :: inner ∧
      d.header? addTable? inner = some (d', ']' :: ']' :: closed) ∧ lineEnd? closed = some rest) ∨
    (∃ inner closed, cs = '[' :: inner ∧
      d.header? openTable? inner = some (d', ']' :: closed) ∧ lineEnd? closed = some rest) ∨
    ∃ key behind value after, key? cs.length cs = some (key, '=' :: behind) ∧
      value? (behind.length + 1) depthLimit (skipSpaces behind) = some (value, after) ∧
      within? (define? value key) d.current d.entries = some d'.entries ∧
      lineEnd? after = some rest := by
  unfold Document.line? at h
  split at h
  · obtain ⟨opened, hheader, h⟩ := Option.bind_eq_some_iff.1 h
    split at h
    · obtain ⟨_, hend, h⟩ := Option.bind_eq_some_iff.1 h
      cases h
      exact .inl ⟨_, _, rfl, hheader, hend⟩
    · cases h
  · obtain ⟨opened, hheader, h⟩ := Option.bind_eq_some_iff.1 h
    split at h
    · obtain ⟨_, hend, h⟩ := Option.bind_eq_some_iff.1 h
      cases h
      exact .inr (.inl ⟨_, _, rfl, hheader, hend⟩)
    · cases h
  · obtain ⟨⟨key, after⟩, hkey, h⟩ := Option.bind_eq_some_iff.1 h
    dsimp only at h
    split at h
    · obtain ⟨⟨value, after⟩, hvalue, h⟩ := Option.bind_eq_some_iff.1 h
      obtain ⟨entries, hdefine, h⟩ := Option.bind_eq_some_iff.1 h
      obtain ⟨_, hend, h⟩ := Option.bind_eq_some_iff.1 h
      cases h
      exact .inr (.inr ⟨_, _, _, _, hkey, hvalue, hdefine, hend⟩)
    · cases h

/-- A header takes at least one character. -/
theorem Document.length_lt_of_header? {opens : List String → String → Entries → Option Entries}
    {d d' : Document} {cs rest : List Char} (h : d.header? opens cs = some (d', rest)) :
    rest.length < cs.length := by
  obtain ⟨⟨path, after⟩, hkey, h⟩ := Option.bind_eq_some_iff.1 h
  obtain ⟨entries, -, h⟩ := Option.bind_eq_some_iff.1 h
  cases h
  exact length_lt_of_key? hkey

/-- A line takes at least one character. -/
theorem Document.length_lt_of_line? {d d' : Document} {cs rest : List Char}
    (h : d.line? cs = some (d', rest)) : rest.length < cs.length := by
  obtain ⟨inner, closed, rfl, hheader, hend⟩ | ⟨inner, closed, rfl, hheader, hend⟩ |
    ⟨key, behind, value, after, hkey, hvalue, -, hend⟩ := cases_of_line? h
  · have hlt := length_lt_of_header? hheader
    have hle := length_le_of_lineEnd? hend
    simp only [List.length_cons] at hlt ⊢
    omega
  · have hlt := length_lt_of_header? hheader
    have hle := length_le_of_lineEnd? hend
    simp only [List.length_cons] at hlt ⊢
    omega
  · have hlt := length_lt_of_key? hkey
    have hspaces := length_skipSpaces_le behind
    have hlt' := (ReadsValue.of_value? hvalue).length_lt
    have hle := length_le_of_lineEnd? hend
    simp only [List.length_cons] at hlt
    omega

/-- As many steps as characters read lines to the end of a document. -/
theorem Document.lines?_eq {steps steps' : Nat} {d : Document} {cs : List Char}
    (h : cs.length ≤ steps) (h' : cs.length ≤ steps') :
    Document.lines? steps d cs = Document.lines? steps' d cs := by
  induction steps generalizing steps' d cs with
  | zero =>
    rw [List.length_eq_zero_iff.1 (Nat.le_zero.1 h)]
    cases steps' <;> rfl
  | succ steps ih =>
    cases steps' with
    | zero =>
      rw [List.length_eq_zero_iff.1 (Nat.le_zero.1 h')]
      rfl
    | succ steps' =>
      rw [Document.lines?, Document.lines?]
      split
      · rfl
      · next hcs =>
        have hcs : cs ≠ [] := fun hnil => hcs (List.isEmpty_iff.2 hnil)
        split
        · next hend =>
          have hlt := length_lt_of_lineEnd? hcs hend
          exact ih (by omega) (by omega)
        · refine Option.bind_congr fun taken hline => ?_
          have hlt := Nat.lt_of_lt_of_le (length_lt_of_line? hline) (length_skipSpaces_le cs)
          exact ih (by omega) (by omega)

/-- As many steps as characters read a document to its end. -/
theorem read?_eq {steps : Nat} {cs : List Char} (h : (withoutMark cs).length ≤ steps) :
    read? cs =
      (Document.lines? steps ⟨[], []⟩ (withoutMark cs)).map fun d => entrySettings d.entries := by
  rw [read?, Document.lines?_eq (Nat.le_refl _) h]

end Rulebook.Toml
