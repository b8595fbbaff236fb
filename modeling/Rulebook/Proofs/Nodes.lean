import Rulebook.Proofs.Members

/-!
# Which JSON values are rule trees

The grammar of trees in JSON. A condition is an object with a string as its field, a string as its
operator and one literal, a number or a string, under either of two names (`Condition.Encodes`). A
tree is an object with a type and a value: an operand has a condition and no sides, an operator has
a keyword and two sides that are trees themselves (`Tree.Encodes`). Whatever else stands in an
object is passed over (`Tree.ofJson_bare`), and any string is an operator.

Where objects are used throughout (`Wire.Keyed`), a value is read as a tree if and only if the
grammar has it for that tree (`Tree.ofJson_eq_ok_iff_encodes`), by induction on the tree.
-/

namespace Rulebook

open Json (under Absent under_cons takes_none_some)

/-! ## The grammar -/

/-- A number or a string is written for a literal. -/
inductive Literal.Encodes : Json → Literal → Prop
  | number (n : Json.Number) : Encodes (.number n) (.number n.toDouble)
  | text (s : String) : Encodes (.string s) (.text s)

/-- The members of an object are written for a condition. -/
structure Condition.Encodes (members : List (String × Json)) (c : Condition) : Prop where
  field : under ["field"] members = [.string c.field]
  comparator : ∃ symbol, under ["operator"] members = [.string symbol] ∧
    Comparator.ofSymbol symbol = c.comparator
  literal : ∃ v, under ["value", "literal"] members = [v] ∧ Literal.Encodes v c.literal

/-- An object is written for a tree. -/
inductive Tree.Encodes : Json → Tree → Prop
  | operand {members descriptor : List (String × Json)} {c : Condition}
      (type : under ["type"] members = [.string "operand"])
      (value : under ["value"] members = [.object descriptor])
      (condition : Condition.Encodes descriptor c)
      (left : Absent "left" members) (right : Absent "right" members) :
      Encodes (.object members) (.leaf c)
  | operator {members : List (String × Json)} {keyword : String} {l r : Json} {left right : Tree}
      (type : under ["type"] members = [.string "operator"])
      (value : under ["value"] members = [.string keyword])
      (onLeft : under ["left"] members = [l]) (onRight : under ["right"] members = [r])
      (encodesLeft : Encodes l left) (encodesRight : Encodes r right) :
      Encodes (.object members) (.node (.ofKeyword keyword) left right)

/-- No node and no condition is written as a list, and no type as an object. -/
inductive Wire.Keyed : Json → Prop
  | object {members : List (String × Json)}
      (type : ∀ v ∈ under ["type"] members, ∀ ms, v ≠ .object ms)
      (condition : under ["type"] members = [.string "operand"] →
        ∀ v ∈ under ["value"] members, ∀ items, v ≠ .array items)
      (left : under ["type"] members = [.string "operator"] →
        ∀ v ∈ under ["left"] members, Keyed v)
      (right : under ["type"] members = [.string "operator"] →
        ∀ v ∈ under ["right"] members, Keyed v) : Keyed (.object members)
  | scalar {v : Json} (object : ∀ ms, v ≠ .object ms) (array : ∀ items, v ≠ .array items) : Keyed v

/-! ## Conditions -/

/-- A literal is read from a number or a string. -/
theorem Condition.literalOfJson_eq_ok_iff {v : Json} {l : Literal} :
    literalOfJson v = .ok l ↔ Literal.Encodes v l := by
  constructor
  · intro h
    cases v with
    | number n =>
      cases h
      exact .number n
    | string s =>
      cases h
      exact .text s
    | _ => cases h
  · intro h
    cases h <;> rfl

/-- A string is read as its text. -/
theorem Json.asText_eq_ok_iff {v : Json} {s : String} : v.asText = .ok s ↔ v = .string s := by
  cases v <;> simp [asText]

/-- An object is a condition if and only if its members are written for it. -/
theorem Condition.ofJson_object_eq_ok_iff {ms : List (String × Json)} {c : Condition} :
    ofJson (.object ms) = .ok c ↔ Encodes ms c := by
  rw [ofJson, bind_eq_ok]
  simp only [ofMembers_eq_ok_iff]
  constructor
  · rintro ⟨⟨field, comparator, literal⟩, ⟨hfield, hcomparator, hliteral⟩, hfinish⟩
    unfold Parts.finish at hfinish
    split at hfinish
    · cases hfinish
    · cases hfinish
    · cases hfinish
    · next hf ho hl =>
      cases hfinish
      dsimp only at hf ho hl hfield hcomparator hliteral
      subst hf ho hl
      obtain ⟨f, hunder, hf⟩ := takes_none_some.1 hfield
      obtain ⟨o, hunder', ho⟩ := takes_none_some.1 hcomparator
      obtain ⟨v, hunder'', hv⟩ := takes_none_some.1 hliteral
      obtain ⟨symbol, hsymbol, rfl⟩ := map_eq_ok.1 ho
      cases Json.asText_eq_ok_iff.1 hf
      cases Json.asText_eq_ok_iff.1 hsymbol
      exact ⟨hunder, ⟨symbol, hunder', rfl⟩, ⟨v, hunder'', literalOfJson_eq_ok_iff.1 hv⟩⟩
  · rintro ⟨hfield, ⟨symbol, hcomparator, hsymbol⟩, ⟨v, hliteral, hv⟩⟩
    refine ⟨⟨some c.field, some c.comparator, some c.literal⟩, ⟨?_, ?_, ?_⟩, rfl⟩
    · exact takes_none_some.2 ⟨_, hfield, rfl⟩
    · exact takes_none_some.2 ⟨_, hcomparator, congrArg Except.ok hsymbol⟩
    · exact takes_none_some.2 ⟨v, hliteral, literalOfJson_eq_ok_iff.2 hv⟩

/-! ## Members that are passed over -/

/-- The members with some names. -/
def Json.only (names : List String) (members : List (String × Json)) : List (String × Json) :=
  members.filter fun m => names.contains m.1

/-- A condition with only the members that it is read from. -/
def Condition.bare : Json → Json
  | .object members => .object (Json.only ["field", "operator", "value", "literal"] members)
  | v => v

mutual

/-- A tree with only the members that it is read from, down to its conditions. -/
def Tree.bare : Json → Json
  | .object members => .object (Tree.bareMembers members)
  | v => v

/-- The members that a tree is read from, each with only those that it is read from itself. -/
def Tree.bareMembers : List (String × Json) → List (String × Json)
  | [] => []
  | (key, v) :: rest =>
    if key = "type" then (key, v) :: bareMembers rest
    else if key = "value" then (key, Condition.bare v) :: bareMembers rest
    else if key = "left" ∨ key = "right" then (key, Tree.bare v) :: bareMembers rest
    else bareMembers rest

end

/-- What stands under names that are kept. -/
theorem Json.under_only {names kept : List String} (ms : List (String × Json))
    (h : ∀ name ∈ names, name ∈ kept) : under names (only kept ms) = under names ms := by
  rw [under, under, only, List.filter_filter]
  refine congrArg _ (List.filter_congr fun m _ => ?_)
  by_cases hm : m.1 ∈ names
  · simp [hm, h m.1 hm]
  · simp [hm]

/-- One value and what it is changed to. -/
theorem Json.exists_map_eq_singleton {f : Json → Json} {P Q : Json → Prop}
    (h : ∀ v, P (f v) ↔ Q v) (vs : List Json) :
    (∃ v, vs.map f = [v] ∧ P v) ↔ ∃ v, vs = [v] ∧ Q v := by
  simp only [List.map_eq_singleton_iff]
  constructor
  · rintro ⟨_, ⟨v, hv, rfl⟩, hP⟩
    exact ⟨v, hv, (h v).1 hP⟩
  · rintro ⟨v, hv, hQ⟩
    exact ⟨f v, ⟨v, hv, rfl⟩, (h v).2 hQ⟩

/-- A condition is read as it is without other members. -/
theorem Condition.ofJson_bare (v : Json) (c : Condition) :
    ofJson (bare v) = .ok c ↔ ofJson v = .ok c := by
  cases v with
  | object ms =>
    rw [bare, ofJson_object_eq_ok_iff, ofJson_object_eq_ok_iff]
    generalize hkept : ["field", "operator", "value", "literal"] = kept
    have hfield : under ["field"] (Json.only kept ms) = under ["field"] ms :=
      Json.under_only ms (by simp [← hkept])
    have hcomparator : under ["operator"] (Json.only kept ms) = under ["operator"] ms :=
      Json.under_only ms (by simp [← hkept])
    have hliteral : under ["value", "literal"] (Json.only kept ms) =
        under ["value", "literal"] ms := Json.under_only ms (by simp [← hkept])
    constructor
    · rintro ⟨hf, hc, hl⟩
      rw [hfield] at hf
      rw [hcomparator] at hc
      rw [hliteral] at hl
      exact ⟨hf, hc, hl⟩
    · rintro ⟨hf, hc, hl⟩
      rw [← hfield] at hf
      rw [← hcomparator] at hc
      rw [← hliteral] at hl
      exact ⟨hf, hc, hl⟩
  | _ => rfl

/-- A value is a text without other members if and only if it is one. -/
theorem Condition.bare_eq_string_iff {v : Json} {s : String} :
    bare v = .string s ↔ v = .string s := by
  cases v <;> simp [bare]

namespace Tree

/-- A value is a null without other members if and only if it is one. -/
theorem bare_eq_null_iff {v : Json} : bare v = .null ↔ v = .null := by
  cases v <;> simp [bare]

/-- What stands under the names of a node is kept, each value with what it is read from. -/
theorem under_bareMembers (ms : List (String × Json)) :
    under ["type"] (bareMembers ms) = under ["type"] ms ∧
      under ["value"] (bareMembers ms) = (under ["value"] ms).map Condition.bare ∧
      under ["left"] (bareMembers ms) = (under ["left"] ms).map bare ∧
      under ["right"] (bareMembers ms) = (under ["right"] ms).map bare := by
  induction ms with
  | nil => exact ⟨rfl, rfl, rfl, rfl⟩
  | cons m ms ih =>
    obtain ⟨key, v⟩ := m
    obtain ⟨htype, hvalue, hleft, hright⟩ := ih
    rw [bareMembers]
    split
    · next h =>
      subst h
      simp [under_cons, htype, hvalue, hleft, hright]
    · split
      · next h =>
        subst h
        simp [under_cons, htype, hvalue, hleft, hright]
      · split
        · next h =>
          rcases h with rfl | rfl <;> simp [under_cons, htype, hvalue, hleft, hright]
        · next hsides =>
          obtain ⟨hl, hr⟩ := not_or.1 hsides
          simp [under_cons, *]

/-- A side is left out if and only if it is without other members. -/
theorem absent_iff_of_under_eq {name : String} {ms ms' : List (String × Json)}
    (h : under [name] ms' = (under [name] ms).map bare) : Absent name ms' ↔ Absent name ms := by
  unfold Absent
  rw [h, List.map_eq_nil_iff, List.map_eq_singleton_iff]
  simp only [bare_eq_null_iff, exists_eq_right]

/-- A tree is read as it is without other members. -/
theorem ofJson_bare (v : Json) (t : Tree) : ofJson (bare v) = .ok t ↔ ofJson v = .ok t := by
  induction t generalizing v with
  | leaf c =>
    cases v with
    | object ms =>
      obtain ⟨htype, hvalue, hleft, hright⟩ := under_bareMembers ms
      rw [bare, ofJson_object_eq_leaf_iff, ofJson_object_eq_leaf_iff, htype, hvalue,
        Json.exists_map_eq_singleton fun v => Condition.ofJson_bare v c,
        absent_iff_of_under_eq hleft, absent_iff_of_under_eq hright]
    | _ => rfl
  | node k left right ihl ihr =>
    cases v with
    | object ms =>
      obtain ⟨htype, hvalue, hleft, hright⟩ := under_bareMembers ms
      rw [bare, ofJson_object_eq_node_iff, ofJson_object_eq_node_iff, htype, hvalue, hleft, hright,
        Json.exists_map_eq_singleton ihl, Json.exists_map_eq_singleton ihr]
      simp only [List.map_eq_singleton_iff, Condition.bare_eq_string_iff, exists_eq_right]
    | _ => rfl

/-! ## Reading by the grammar -/

/-- What is not an object is no tree and written for none. -/
theorem ofJson_eq_ok_iff_of_scalar {v : Json} {t : Tree} (object : ∀ ms, v ≠ .object ms)
    (array : ∀ items, v ≠ .array items) : ofJson v = .ok t ↔ Encodes v t := by
  constructor
  · intro h
    cases v with
    | object ms => exact absurd rfl (object ms)
    | array items => exact absurd rfl (array items)
    | _ => cases h
  · intro h
    cases h <;> exact absurd rfl (object _)

/-- A type that is not an object is that of a name. -/
theorem exists_kind_iff {vs : List Json} (h : ∀ v ∈ vs, ∀ ms, v ≠ .object ms)
    {kind : Wire.Kind} :
    (∃ v, vs = [v] ∧ Wire.Kind.ofJson v = .ok kind) ↔ vs = [.string kind.name] := by
  constructor
  · rintro ⟨v, rfl, hkind⟩
    cases v with
    | string name => rw [Wire.Kind.ofName_eq_ok_iff.1 hkind]
    | object ms => exact absurd rfl (h _ List.mem_cons_self ms)
    | _ => cases hkind
  · rintro rfl
    exact ⟨_, rfl, Wire.Kind.ofName_eq_ok_iff.2 rfl⟩

/-- A value without lists is read as a tree if and only if it is written for the tree. -/
theorem ofJson_eq_ok_iff_of_keyed {v : Json} {t : Tree} (keyed : Wire.Keyed v) :
    ofJson v = .ok t ↔ Encodes v t := by
  induction t generalizing v with
  | leaf c =>
    cases keyed with
    | scalar object array => exact ofJson_eq_ok_iff_of_scalar object array
    | @object ms type condition onLeft onRight =>
      rw [ofJson_object_eq_leaf_iff, exists_kind_iff type]
      constructor
      · rintro ⟨htype, ⟨value, hvalue, hc⟩, hleft, hright⟩
        have hlist := condition htype value (by rw [hvalue]; exact List.mem_cons_self)
        cases value with
        | object descriptor =>
          exact .operand htype hvalue (Condition.ofJson_object_eq_ok_iff.1 hc) hleft hright
        | array items => exact absurd rfl (hlist items)
        | _ => cases hc
      · intro h
        cases h with
        | operand htype hvalue hc hleft hright =>
          exact ⟨htype, ⟨_, hvalue, Condition.ofJson_object_eq_ok_iff.2 hc⟩, hleft, hright⟩
  | node k left right ihl ihr =>
    cases keyed with
    | scalar object array => exact ofJson_eq_ok_iff_of_scalar object array
    | @object ms type condition onLeft onRight =>
      rw [ofJson_object_eq_node_iff, exists_kind_iff type]
      constructor
      · rintro ⟨htype, ⟨keyword, hvalue, rfl⟩, ⟨l, hl, hleft⟩, ⟨r, hr, hright⟩⟩
        have hlkeyed := onLeft htype l (by rw [hl]; exact List.mem_cons_self)
        have hrkeyed := onRight htype r (by rw [hr]; exact List.mem_cons_self)
        exact .operator htype hvalue hl hr ((ihl hlkeyed).1 hleft) ((ihr hrkeyed).1 hright)
      · intro h
        cases h with
        | @operator _ keyword l r _ _ htype hvalue hl hr hleft hright =>
          have hlkeyed := onLeft htype l (by rw [hl]; exact List.mem_cons_self)
          have hrkeyed := onRight htype r (by rw [hr]; exact List.mem_cons_self)
          exact ⟨htype, ⟨keyword, hvalue, rfl⟩, ⟨l, hl, (ihl hlkeyed).2 hleft⟩,
            ⟨r, hr, (ihr hrkeyed).2 hright⟩⟩

end Tree

/-- A connective has the text that it is read from. -/
theorem Connective.keyword_ofKeyword (keyword : String) :
    (ofKeyword keyword).keyword = keyword := by
  unfold ofKeyword
  split <;> rfl

namespace Tree

/-- A value whose nodes and conditions are objects is read as a tree if and only if it is written
for the tree: with an operand for every leaf and an operator with two sides for every join, with the
fields, operators and literals of the tree, where a second symbol of equality is read as the first.
Members under other names make no difference anywhere in the value. -/
theorem ofJson_eq_ok_iff_encodes {v : Json} (keyed : Wire.Keyed v) :
    (∀ t, ofJson v = .ok t ↔ Encodes v t) ∧
    (∀ t, ofJson (bare v) = .ok t ↔ ofJson v = .ok t) ∧
    (∀ symbol, (Comparator.ofSymbol symbol).symbol = if symbol = "==" then "=" else symbol) ∧
    ∀ keyword, (Connective.ofKeyword keyword).keyword = keyword :=
  ⟨fun _ => ofJson_eq_ok_iff_of_keyed keyed, ofJson_bare v, Comparator.symbol_ofSymbol,
    Connective.keyword_ofKeyword⟩

/-- The literal stands under its second name on one side and the keyword is unknown; with both names
on the other side the whole tree is refused. -/
theorem ofJson_eq_ok_iff_encodes_literal :
    let left : Json := .object [("left", .null), ("type", .string "operand"),
      ("value", .object [("field", .string "a"), ("literal", .string "x"),
        ("operator", .string "==")])]
    let right (ms : List (String × Json)) : Json := .object [("type", .string "operand"),
      ("value", .object (("field", .string "b") :: ("operator", .string "~") :: ms))]
    let join (ms : List (String × Json)) : Json := .object [("left", left), ("note", .array []),
      ("right", right ms), ("type", .string "operator"), ("value", .string "XOR")]
    ofJson (join [("value", .string "y")]) = .ok (.node (.unsupported "XOR")
        (.leaf ⟨"a", .eq, .text "x"⟩) (.leaf ⟨"b", .unsupported "~", .text "y"⟩)) ∧
      ∀ t, ofJson (join [("literal", .string "y"), ("value", .string "y")]) ≠ .ok t := by
  intro left right join
  have hleft : Wire.Keyed left :=
    .object (by simp [under]) (by simp [under]) (by simp [under]) (by simp [under])
  have hright (ms : List (String × Json)) : Wire.Keyed (right ms) :=
    .object (by simp [under]) (by simp [under]) (by simp [under]) (by simp [under])
  have hkeyed (ms : List (String × Json)) : Wire.Keyed (join ms) :=
    .object (by simp [under]) (by simp [under]) (by simpa [under] using hleft)
      (by simpa [under] using hright ms)
  refine ⟨((ofJson_eq_ok_iff_encodes (hkeyed _)).1 _).2 ?_, fun t h => ?_⟩
  · have ha : Encodes left (.leaf ⟨"a", .eq, .text "x"⟩) :=
      .operand rfl rfl ⟨rfl, ⟨"==", rfl, rfl⟩, ⟨_, rfl, .text "x"⟩⟩ (.inr rfl) (.inl rfl)
    have hb : Encodes (right [("value", .string "y")]) (.leaf ⟨"b", .unsupported "~", .text "y"⟩) :=
      .operand rfl rfl ⟨rfl, ⟨"~", rfl, rfl⟩, ⟨_, rfl, .text "y"⟩⟩ (.inl rfl) (.inl rfl)
    have hkeyword : Connective.unsupported "XOR" = .ofKeyword "XOR" := rfl
    rw [hkeyword]
    exact .operator rfl rfl rfl rfl ha hb
  · have hencodes := ((ofJson_eq_ok_iff_encodes (hkeyed _)).1 t).1 h
    cases hencodes with
    | operand type _ _ _ _ => simp [under] at type
    | operator _ _ _ onRight _ hside =>
      cases onRight
      cases hside with
      | operand _ value condition _ _ =>
        cases value
        obtain ⟨v, hv, -⟩ := condition.literal
        cases hv
      | operator type _ _ _ _ _ => simp [under] at type

end Tree

end Rulebook
