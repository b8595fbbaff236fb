import Rulebook.Proofs.JsonNumbers

/-!
# The tokens of a written value

The compact text of a value is cut into the tokens that the value is made of, with every number as
its text alone is read (`ofText_chars`). A string comes back from its escapes, and every other token
is known by its first character. The proof goes by what is cut off in front of any text (`Cuts`).
-/

namespace Rulebook.Json

namespace Token

open Text

/-! ## Strings -/

/-- A piece that stands for one character. -/
def Piece.Means (c : Char) (p : Piece) : Prop := p = .char c ∨ p = .code c.toNat ∧ c.toNat < 0x20

/-- The four digits of a control are read back. -/
theorem code?_hex4 : ∀ n < 0x20, ∃ a b c d, hex4 n = [a, b, c, d] ∧ code? a b c d = some n := by
  intro n hn
  refine ⟨_, _, _, _, rfl, ?_⟩
  revert n
  decide

/-- An escape of two characters is read as the character that it stands for. -/
theorem pieces?_escape {e c : Char} (h : unescape? e = some c) (cs : List Char) :
    pieces? ('\\' :: e :: cs) = (pieces? cs).map fun (ps, after) => (.char c :: ps, after) := by
  have hu : e ≠ 'u' := by
    rintro rfl
    cases h
  rw [pieces?]
  · rw [h]
    cases pieces? cs <;> rfl
  · rintro a b d f rest rfl
    exact absurd rfl hu

/-- What stands for a character inside a string is read as a piece that means it. -/
theorem exists_piece (c : Char) :
    ∃ p : Piece, p.Means c ∧
      ∀ cs, pieces? (escaped c ++ cs) = (pieces? cs).map fun (ps, after) => (p :: ps, after) := by
  unfold escaped
  split
  -- Only the last case has two halves: a control has a code, and any other character is kept.
  case h_8 hquote hslash _ _ _ _ _ =>
    split
    · next hcontrol =>
      obtain ⟨a, b, c', d, hhex, hcode⟩ := code?_hex4 c.toNat hcontrol
      refine ⟨.code c.toNat, .inr ⟨rfl, hcontrol⟩, fun cs => ?_⟩
      rw [hhex]
      simp only [List.cons_append, List.nil_append, pieces?, hcode]
      cases pieces? cs <;> rfl
    · next hcontrol =>
      refine ⟨.char c, .inl rfl, fun cs => ?_⟩
      have hkept : ¬ (c.toNat < 0x20 ∨ c = '\\') := not_or.2 ⟨hcontrol, hslash⟩
      rw [List.singleton_append, pieces?, if_neg hkept]
      · exact hquote
      · exact fun _ _ _ _ _ h _ => hslash h
      · exact fun _ _ h _ => hslash h
  all_goals
    exact ⟨.char _, .inl rfl, fun cs => pieces?_escape rfl cs⟩

/-- A piece that means a character is joined as that character. -/
theorem joined?_cons {p : Piece} {c : Char} (h : p.Means c) (ps : List Piece) :
    joined? (p :: ps) = (joined? ps).map (c :: ·) := by
  rcases h with rfl | ⟨rfl, hcontrol⟩
  · rw [joined?]
  -- A control is no half of a surrogate pair, so it is joined with nothing behind it.
  · have hhigh : isHigh c.toNat = false := by
      rw [isHigh, Bool.and_eq_false_iff, decide_eq_false_iff_not]
      exact .inl (by omega)
    have hlow : isLow c.toNat = false := by
      rw [isLow, Bool.and_eq_false_iff, decide_eq_false_iff_not]
      exact .inl (by omega)
    cases ps with
    | nil => simp [joined?, hhigh, hlow, Char.ofNat_toNat]
    | cons q ps =>
      cases q with
      | char d => simp [joined?, hhigh, hlow, Char.ofNat_toNat]
      | code n => simp [joined?, hhigh, hlow, Char.ofNat_toNat]

/-- The characters of a string come back from their escapes. -/
theorem exists_pieces_flatMap_escaped (cs rest : List Char) :
    ∃ ps, pieces? (cs.flatMap escaped ++ '"' :: rest) = some (ps, rest) ∧
      joined? ps = some cs := by
  induction cs with
  | nil => exact ⟨[], rfl, rfl⟩
  | cons c cs ih =>
    obtain ⟨ps, hps, hjoined⟩ := ih
    obtain ⟨p, hp, hread⟩ := exists_piece c
    refine ⟨p :: ps, ?_, ?_⟩
    · rw [List.flatMap_cons, List.append_assoc, hread, hps]
      rfl
    · rw [joined?_cons hp, hjoined]
      rfl

/-- The text of a string is cut off as the string. -/
theorem next?_string (s : String) (rest : List Char) :
    next? '"' (s.toList.flatMap escaped ++ '"' :: rest) = some (.string (some s), rest) := by
  obtain ⟨ps, hps, hjoined⟩ := exists_pieces_flatMap_escaped s.toList rest
  simp only [next?, hps, Option.map_some, hjoined, String.ofList_toList]

end Token

/-! ## Values -/

mutual

/-- The doubles in a value, integers apart. -/
def doubles : Json → List Number
  | .number (.real negative units h) => [.real negative units h]
  | .array items => itemDoubles items
  | .object members => memberDoubles members
  | _ => []

/-- The doubles in an array's items. -/
def itemDoubles : List Json → List Number
  | [] => []
  | v :: rest => doubles v ++ itemDoubles rest

/-- The doubles in an object's members. -/
def memberDoubles : List (String × Json) → List Number
  | [] => []
  | (_, v) :: rest => doubles v ++ memberDoubles rest

end

mutual

/-- The value with every number as its text alone is read. -/
def reread : Json → Json
  | .null => .null
  | .bool b => .bool b
  | .number n => .number n.reread
  | .string s => .string s
  | .array items => .array (rereadItems items)
  | .object members => .object (rereadMembers members)

/-- The items of an array with every number as its text alone is read. -/
def rereadItems : List Json → List Json
  | [] => []
  | v :: rest => reread v :: rereadItems rest

/-- The members of an object with every number as its text alone is read. -/
def rereadMembers : List (String × Json) → List (String × Json)
  | [] => []
  | (k, v) :: rest => (k, reread v) :: rereadMembers rest

end

mutual

/-- A value is as it is read if its doubles read back. -/
theorem reread_eq_self : ∀ {v : Json}, (∀ n ∈ v.doubles, n.ReadsBack) → v.reread = v
  | .null, _ => rfl
  | .bool _, _ => rfl
  | .number (.integer _ hi), _ => by
    rw [reread, Number.ReadsAs.reread_eq (Number.readsBack_integer hi)]
  | .number (.real _ _ _), readsBack => by
    rw [reread, Number.ReadsAs.reread_eq (readsBack _ List.mem_cons_self)]
  | .string _, _ => rfl
  | .array items, readsBack => by
    rw [doubles] at readsBack
    rw [reread, rereadItems_eq_self readsBack]
  | .object members, readsBack => by
    rw [doubles] at readsBack
    rw [reread, rereadMembers_eq_self readsBack]

/-- The items of an array are as they are read if their doubles read back. -/
theorem rereadItems_eq_self : ∀ {items : List Json}, (∀ n ∈ itemDoubles items, n.ReadsBack) →
    rereadItems items = items
  | [], _ => rfl
  | v :: items, readsBack => by
    rw [itemDoubles, List.forall_mem_append] at readsBack
    rw [rereadItems, reread_eq_self readsBack.1, rereadItems_eq_self readsBack.2]

/-- The members of an object are as they are read if their doubles read back. -/
theorem rereadMembers_eq_self : ∀ {members : List (String × Json)},
    (∀ n ∈ memberDoubles members, n.ReadsBack) → rereadMembers members = members
  | [], _ => rfl
  | (k, v) :: members, readsBack => by
    rw [memberDoubles, List.forall_mem_append] at readsBack
    rw [rereadMembers, reread_eq_self readsBack.1, rereadMembers_eq_self readsBack.2]

end

mutual

/-- The tokens of a value. -/
def tokens : Json → List Token
  | .null => [.null]
  | .bool b => [.bool b]
  | .number n => [.number (some n)]
  | .string s => [.string (some s)]
  | .array items => .openBracket :: (itemTokens true items ++ [.closeBracket])
  | .object members => .openBrace :: (memberTokens true members ++ [.closeBrace])

/-- The tokens of an array's items, with a comma in front of each but the `first`. -/
def itemTokens (first : Bool) : List Json → List Token
  | [] => []
  | v :: rest => (if first then [] else [.comma]) ++ tokens v ++ itemTokens false rest

/-- The tokens of an object's members, with a comma in front of each but the `first`. -/
def memberTokens (first : Bool) : List (String × Json) → List Token
  | [] => []
  | (k, v) :: rest =>
    (if first then [] else [.comma]) ++ [.string (some k)] ++ .colon ::
      (tokens v ++ memberTokens false rest)

end

namespace Token

/-- The text `cs` in front of `rest` is cut into `ts`, in any number of steps that is enough. -/
def Cuts (cs : List Char) (ts : List Token) (rest : List Char) : Prop :=
  ∀ steps, (cs ++ rest).length ≤ steps →
    ∃ steps', rest.length ≤ steps' ∧ scan steps (cs ++ rest) = ts ++ scan steps' rest

/-- Nothing is cut into no tokens. -/
theorem Cuts.nil (rest : List Char) : Cuts [] [] rest := fun steps h => ⟨steps, h, rfl⟩

/-- Two texts in a row are cut one after the other. -/
theorem Cuts.append {cs cs' rest : List Char} {ts ts' : List Token} (h : Cuts cs ts (cs' ++ rest))
    (h' : Cuts cs' ts' rest) : Cuts (cs ++ cs') (ts ++ ts') rest := by
  intro steps hsteps
  rw [List.append_assoc] at hsteps
  obtain ⟨steps', hsteps', hscan⟩ := h steps hsteps
  obtain ⟨steps'', hsteps'', hscan'⟩ := h' steps' hsteps'
  exact ⟨steps'', hsteps'', by rw [List.append_assoc, List.append_assoc, hscan, hscan']⟩

/-- The next token is cut off in one step. -/
theorem Cuts.next {c : Char} {cs rest : List Char} {t : Token} (hspace : isSpace c = false)
    (h : next? c (cs ++ rest) = some (t, rest)) : Cuts (c :: cs) [t] rest := by
  intro steps hsteps
  rw [List.cons_append, List.length_cons, List.length_append] at hsteps
  obtain ⟨k, rfl⟩ : ∃ k, steps = k + 1 := Nat.exists_eq_add_of_le' (by omega)
  refine ⟨k, by omega, ?_⟩
  rw [List.cons_append, scan_cons hspace, h]
  rfl

/-- A text is cut whole if it is cut in front of nothing. -/
theorem Cuts.ofText_eq {cs : List Char} {ts : List Token} (h : Cuts cs ts []) :
    ofText cs = ts := by
  obtain ⟨steps', -, hscan⟩ := h cs.length (Nat.le_of_eq (by rw [List.append_nil]))
  rwa [List.append_nil, scan_nil, List.append_nil] at hscan

/-- The text of a string is one token. -/
theorem cuts_stringChars (s : String) (rest : List Char) :
    Cuts (stringChars s) [.string (some s)] rest := by
  refine Cuts.next rfl ?_
  rw [List.append_assoc, List.singleton_append]
  exact next?_string s rest

/-- A comma in front of each but the first is a token of its own. -/
theorem cuts_comma (first : Bool) (rest : List Char) :
    Cuts (if first then [] else [',']) (if first then [] else [.comma]) rest := by
  cases first with
  | true => exact Cuts.nil rest
  | false => exact Cuts.next rfl rfl

/-- What follows an item ends it. -/
theorem ends_itemChars (items : List Json) (rest : List Char) :
    Ends (itemChars false items ++ ']' :: rest) := by
  intro c hc
  cases items with
  | nil =>
    cases hc
    exact .inr (.inl rfl)
  | cons v items =>
    rw [itemChars] at hc
    cases hc
    exact .inl rfl

/-- What follows a member ends it. -/
theorem ends_memberChars (members : List (String × Json)) (rest : List Char) :
    Ends (memberChars false members ++ '\x7d' :: rest) := by
  intro c hc
  cases members with
  | nil =>
    cases hc
    exact .inr (.inr rfl)
  | cons m members =>
    rw [memberChars] at hc
    cases hc
    exact .inl rfl

mutual

/-- The text of a value is cut into its tokens in front of an end. -/
theorem cuts_chars : ∀ (v : Json) {rest : List Char}, Ends rest →
    Cuts v.chars v.reread.tokens rest
  | .null, rest, _ => by
    rw [chars, reread, tokens]
    exact Cuts.next rfl rfl
  | .bool true, rest, _ => by
    rw [chars, reread, tokens]
    exact Cuts.next rfl rfl
  | .bool false, rest, _ => by
    rw [chars, reread, tokens]
    exact Cuts.next rfl rfl
  | .number n, rest, ends => by
    obtain ⟨c, cs, hchars, hspace, hnext⟩ := n.readsAs_reread.exists_next?_append ends
    rw [chars, reread, tokens, hchars]
    exact Cuts.next hspace hnext
  | .string s, rest, _ => by
    rw [chars, reread, tokens]
    exact cuts_stringChars s rest
  | .array items, rest, _ => by
    rw [chars, reread, tokens]
    have hopen : Cuts ['['] [.openBracket] ((itemChars true items ++ [']']) ++ rest) :=
      Cuts.next rfl rfl
    have hclose : Cuts [']'] [.closeBracket] rest := Cuts.next rfl rfl
    exact hopen.append ((cuts_itemChars items true).append hclose)
  | .object members, rest, _ => by
    rw [chars, reread, tokens]
    have hopen : Cuts ['\x7b'] [.openBrace] ((memberChars true members ++ ['\x7d']) ++ rest) :=
      Cuts.next rfl rfl
    have hclose : Cuts ['\x7d'] [.closeBrace] rest := Cuts.next rfl rfl
    exact hopen.append ((cuts_memberChars members true).append hclose)

/-- The texts of items are cut into their tokens in front of the end of the array. -/
theorem cuts_itemChars : ∀ (items : List Json) (first : Bool) {rest : List Char},
    Cuts (itemChars first items) (itemTokens first (rereadItems items)) (']' :: rest)
  | [], first, rest => by
    rw [itemChars, rereadItems, itemTokens]
    exact Cuts.nil _
  | v :: items, first, rest => by
    rw [itemChars, rereadItems, itemTokens]
    have hvalue := cuts_chars v (ends_itemChars items rest)
    have hitems : Cuts (itemChars false items) (itemTokens false (rereadItems items))
        (']' :: rest) := cuts_itemChars items false
    exact ((cuts_comma first _).append hvalue).append hitems

/-- The texts of members are cut into their tokens in front of the end of the object. -/
theorem cuts_memberChars : ∀ (members : List (String × Json)) (first : Bool) {rest : List Char},
    Cuts (memberChars first members) (memberTokens first (rereadMembers members))
      ('\x7d' :: rest)
  | [], first, rest => by
    rw [memberChars, rereadMembers, memberTokens]
    exact Cuts.nil _
  | (k, v) :: members, first, rest => by
    rw [memberChars, rereadMembers, memberTokens]
    have hvalue := cuts_chars v (ends_memberChars members rest)
    have hmembers : Cuts (memberChars false members)
        (memberTokens false (rereadMembers members)) ('\x7d' :: rest) :=
      cuts_memberChars members false
    have hcolon : Cuts [':'] [.colon]
        ((chars v ++ memberChars false members) ++ '\x7d' :: rest) := Cuts.next rfl rfl
    exact ((cuts_comma first _).append (cuts_stringChars k _)).append
      (hcolon.append (hvalue.append hmembers))

end

/-- The text of a value is cut into the tokens of the value, with its numbers as they are read. -/
theorem ofText_chars (v : Json) : ofText v.chars = v.reread.tokens :=
  (cuts_chars v fun _ h => by cases h).ofText_eq

end Token

end Rulebook.Json
