import Rulebook.Proofs.Transmission

/-!
# What comes of an object

Reading an object goes through its members in their order, takes in those with a known name and
refuses a name that comes twice. What comes of it is said here by what stands under each name
(`Json.under`), without the order: of a node (`Wire.ofMembers_eq_ok_iff`) and of a condition
(`Condition.ofMembers_eq_ok_iff`), whose parts are all taken in one way (`Json.Takes`). Reading a
tree finds the nodes first and looks at what they are afterwards; for an object the two steps come
together in one equation for a leaf and one for a join (`Tree.ofJson_object_eq_leaf_iff`,
`Tree.ofJson_object_eq_node_iff`).
-/

namespace Rulebook

open Json (Mismatch)

namespace Json

/-- The values of the members under some names, in their order. -/
def under (names : List String) (members : List (String × Json)) : List Json :=
  (members.filter fun m => names.contains m.1).map (·.2)

/-- No value stands under a name, or a null. -/
def Absent (name : String) (members : List (String × Json)) : Prop :=
  under [name] members = [] ∨ under [name] members = [.null]

end Json

open Json (under Absent)

/-! ## Taking in members -/

namespace Json

/-- What stands under some names when there is one more member. -/
theorem under_cons (names : List String) (k : String) (v : Json) (ms : List (String × Json)) :
    under names ((k, v) :: ms) = if k ∈ names then v :: under names ms else under names ms := by
  unfold under
  rw [List.filter_cons]
  by_cases h : k ∈ names <;> simp [h]

/-- Values are taken for a part: none, which leaves the part as it is, or one, if the part has not
been met. -/
inductive Takes {α : Type} (read : Json → Except Mismatch α) :
    Option α → List Json → Option α → Prop
  | none {part : Option α} : Takes read part [] part
  | one {v : Json} {a : α} (h : read v = .ok a) : Takes read .none [v] (some a)

/-- The first of some values is taken if the part has not been met, and then the others are. -/
theorem takes_cons {α : Type} {read : Json → Except Mismatch α} {part part' : Option α} {v : Json}
    {vs : List Json} :
    Takes read part (v :: vs) part' ↔
      part = .none ∧ ∃ a, read v = .ok a ∧ Takes read (some a) vs part' := by
  constructor
  · intro h
    cases h with
    | one h => exact ⟨rfl, _, h, .none⟩
  · rintro ⟨rfl, a, h, htakes⟩
    cases htakes
    exact .one h

/-- A part that has not been met is there afterwards if and only if there is one value. -/
theorem takes_none_some {α : Type} {read : Json → Except Mismatch α} {vs : List Json} {a : α} :
    Takes read .none vs (some a) ↔ ∃ v, vs = [v] ∧ read v = .ok a := by
  constructor
  · intro h
    cases h with
    | one h => exact ⟨_, rfl, h⟩
  · rintro ⟨v, rfl, h⟩
    exact .one h

/-- A part that has not been met is still not there if and only if there is no value. -/
theorem takes_none_none {α : Type} {read : Json → Except Mismatch α} {vs : List Json} :
    Takes read .none vs .none ↔ vs = [] := by
  constructor
  · intro h
    cases h
    rfl
  · rintro rfl
    exact .none

/-- A member is read for a part that has not been met, and what follows goes on with it. -/
theorem taken_eq_ok {α β γ : Type} {part : Option γ} {e : Mismatch} {x : Except Mismatch α}
    {f : α → Except Mismatch β} {b : β} :
    (if part.isSome then .error e else x >>= f) = .ok b ↔
      part = .none ∧ ∃ a, x = .ok a ∧ f a = .ok b := by
  cases part with
  | none => simp [bind_eq_ok]
  | some a => simp

end Json

open Json (Takes under_cons takes_cons takes_none_some takes_none_none taken_eq_ok)

/-- The members of a node are taken in if and only if each part takes what stands under its name. -/
theorem Wire.ofMembers_eq_ok_iff {ms : List (String × Json)} {p q : Parts} :
    ofMembers p ms = .ok q ↔
      Takes Kind.ofJson p.kind (under ["type"] ms) q.kind ∧
      Takes .ok p.value (under ["value"] ms) q.value ∧
      Takes ofChild p.left (under ["left"] ms) q.left ∧
      Takes ofChild p.right (under ["right"] ms) q.right := by
  induction ms generalizing p with
  | nil =>
    rw [ofMembers]
    constructor
    · intro h
      cases h
      exact ⟨.none, .none, .none, .none⟩
    · rintro ⟨htype, hvalue, hleft, hright⟩
      obtain ⟨kind, value, left, right⟩ := p
      obtain ⟨kind', value', left', right'⟩ := q
      cases htype
      cases hvalue
      cases hleft
      cases hright
      rfl
  | cons m ms ih =>
    obtain ⟨key, v⟩ := m
    rw [ofMembers]
    simp only [under_cons, List.mem_singleton]
    split
    · next h =>
      subst h
      rw [taken_eq_ok]
      simp only [ih, takes_cons, String.reduceEq, if_false]
      grind
    · split
      · next h =>
        subst h
        change (if p.value.isSome then _ else Except.ok v >>= fun value =>
          ofMembers { p with value := some value } ms) = .ok q ↔ _
        rw [taken_eq_ok]
        simp only [ih, takes_cons, String.reduceEq, if_false]
        grind
      · split
        · next h =>
          subst h
          rw [taken_eq_ok]
          simp only [ih, takes_cons, String.reduceEq, if_false]
          grind
        · split
          · next h =>
            subst h
            rw [taken_eq_ok]
            simp only [ih, takes_cons]
            grind
          · exact ih

/-- The members of a condition are taken in if and only if each part takes what stands under its
name, the literal what stands under either of its two. -/
theorem Condition.ofMembers_eq_ok_iff {ms : List (String × Json)} {p q : Parts} :
    ofMembers p ms = .ok q ↔
      Takes Json.asText p.field (under ["field"] ms) q.field ∧
      Takes (fun v => v.asText.map .ofSymbol) p.comparator (under ["operator"] ms) q.comparator ∧
      Takes literalOfJson p.literal (under ["value", "literal"] ms) q.literal := by
  induction ms generalizing p with
  | nil =>
    rw [ofMembers]
    constructor
    · intro h
      cases h
      exact ⟨.none, .none, .none⟩
    · rintro ⟨hfield, hcomparator, hliteral⟩
      obtain ⟨field, comparator, literal⟩ := p
      obtain ⟨field', comparator', literal'⟩ := q
      cases hfield
      cases hcomparator
      cases hliteral
      rfl
  | cons m ms ih =>
    obtain ⟨key, v⟩ := m
    rw [ofMembers]
    simp only [under_cons, List.mem_cons, List.not_mem_nil, or_false]
    split
    · next h =>
      subst h
      rw [taken_eq_ok]
      simp only [ih, takes_cons, String.reduceEq, or_false, if_false]
      grind
    · split
      · next h =>
        subst h
        rw [taken_eq_ok]
        simp only [ih, takes_cons, String.reduceEq, or_false, if_false, map_eq_ok]
        grind
      · split
        · next h =>
          rw [taken_eq_ok]
          simp only [ih, takes_cons]
          grind
        · exact ih

/-! ## What comes of an object -/

/-- A type is read from its name. -/
theorem Wire.Kind.ofName_eq_ok_iff {name : String} {kind : Kind} :
    ofName name = .ok kind ↔ name = kind.name := by
  unfold ofName ofName?
  constructor
  · intro h
    split at h
    · next hkind =>
      cases h
      split at hkind
      · cases hkind
        rfl
      · cases hkind
        rfl
      · cases hkind
    · cases h
  · rintro rfl
    cases kind <;> rfl

/-- A side is a node, unless it is left out by a null. -/
theorem Wire.ofChild_eq {v : Json} (h : v ≠ .null) : ofChild v = (ofJson v).map some := by
  cases v with
  | null => exact absurd rfl h
  | object members => exact ofChild_object members
  | array items =>
    rw [ofChild, ofJson]
    cases ofItems items <;> rfl
  | _ => rfl

/-- A side is a node if and only if the value is. -/
theorem Wire.ofChild_eq_ok_some_iff {v : Json} {w : Wire} :
    ofChild v = .ok (some w) ↔ ofJson v = .ok w := by
  by_cases h : v = .null
  · subst h
    exact ⟨nofun, nofun⟩
  · rw [ofChild_eq h, map_eq_ok]
    simp

/-- A side is left out by a null only. -/
theorem Wire.ofChild_eq_ok_none_iff {v : Json} : ofChild v = .ok none ↔ v = .null := by
  by_cases h : v = .null
  · subst h
    exact ⟨fun _ => rfl, fun _ => rfl⟩
  · rw [ofChild_eq h, map_eq_ok]
    simp [h]

/-- The side that is taken from what stands under a name. -/
theorem Wire.takes_side_iff {name : String} {ms : List (String × Json)} {side : Option Wire} :
    (∃ part, Takes ofChild none (under [name] ms) part ∧ part.join = side) ↔
      (side = none ∧ Absent name ms) ∨
        ∃ v w, under [name] ms = [v] ∧ ofJson v = .ok w ∧ side = some w := by
  constructor
  · rintro ⟨part, htakes, rfl⟩
    match part with
    | none => exact .inl ⟨rfl, .inl (takes_none_none.1 htakes)⟩
    | some none =>
      obtain ⟨v, hv, hchild⟩ := takes_none_some.1 htakes
      rw [ofChild_eq_ok_none_iff] at hchild
      subst hchild
      exact .inl ⟨rfl, .inr hv⟩
    | some (some w) =>
      obtain ⟨v, hv, hchild⟩ := takes_none_some.1 htakes
      exact .inr ⟨v, w, hv, ofChild_eq_ok_some_iff.1 hchild, rfl⟩
  · rintro (⟨rfl, h | h⟩ | ⟨v, w, hv, hread, rfl⟩)
    · exact ⟨none, takes_none_none.2 h, rfl⟩
    · exact ⟨some none, takes_none_some.2 ⟨_, h, rfl⟩, rfl⟩
    · exact ⟨some (some w), takes_none_some.2 ⟨v, hv, ofChild_eq_ok_some_iff.2 hread⟩, rfl⟩

/-- An object is a node of some type if and only if it has one type, which is that, and one value,
and each side is taken from what stands under its name. -/
theorem Wire.ofJson_object_eq_ok_iff {ms : List (String × Json)} {kind : Kind} {value : Json}
    {left right : Option Wire} :
    ofJson (.object ms) = .ok (.mk kind value left right) ↔
      (∃ v, under ["type"] ms = [v] ∧ Kind.ofJson v = .ok kind) ∧
      under ["value"] ms = [value] ∧
      (∃ part, Takes ofChild none (under ["left"] ms) part ∧ part.join = left) ∧
      ∃ part, Takes ofChild none (under ["right"] ms) part ∧ part.join = right := by
  rw [ofJson, bind_eq_ok]
  simp only [ofMembers_eq_ok_iff]
  constructor
  · rintro ⟨⟨kind', value', l, r⟩, ⟨htype, hvalue, hleft, hright⟩, hfinish⟩
    unfold Parts.finish at hfinish
    split at hfinish
    · cases hfinish
    · cases hfinish
    · next hkind hval =>
      cases hfinish
      dsimp only at hkind hval htype hvalue hleft hright
      subst hkind hval
      obtain ⟨v, hv, hread⟩ := takes_none_some.1 hvalue
      cases hread
      exact ⟨takes_none_some.1 htype, hv, ⟨l, hleft, rfl⟩, ⟨r, hright, rfl⟩⟩
  · rintro ⟨htype, hvalue, ⟨l, hleft, rfl⟩, ⟨r, hright, rfl⟩⟩
    exact ⟨⟨some kind, some value, l, r⟩,
      ⟨takes_none_some.2 htype, takes_none_some.2 ⟨value, hvalue, rfl⟩, hleft, hright⟩, rfl⟩

/-- Nodes are a leaf if and only if they are an operand with a condition and without sides. -/
theorem Wire.toTree_eq_leaf_iff {w : Wire} {c : Condition} :
    w.toTree = .ok (.leaf c) ↔
      ∃ value, w = .mk .operand value none none ∧ Condition.ofJson value = .ok c := by
  constructor
  · intro h
    fun_induction Wire.toTree w with
    | case2 value left right hsides c' hc =>
      cases h
      obtain ⟨hleft, hright⟩ := not_or.1 hsides
      rw [Option.not_isSome_iff_eq_none] at hleft hright
      exact ⟨value, by rw [hleft, hright], hc⟩
    | case6 keyword l r _ _ =>
      obtain ⟨left, -, h⟩ := bind_eq_ok.1 h
      obtain ⟨right, -, h⟩ := bind_eq_ok.1 h
      cases h
    | _ => cases h
  · rintro ⟨value, rfl, hc⟩
    rw [toTree, hc]
    rfl

/-- Nodes are a join if and only if they are an operator with a keyword and two sides. -/
theorem Wire.toTree_eq_node_iff {w : Wire} {k : Connective} {left right : Tree} :
    w.toTree = .ok (.node k left right) ↔
      ∃ keyword l r, w = .mk .operator (.string keyword) (some l) (some r) ∧
        Connective.ofKeyword keyword = k ∧ l.toTree = .ok left ∧ r.toTree = .ok right := by
  constructor
  · intro h
    fun_induction Wire.toTree w with
    | case6 keyword l r _ _ =>
      obtain ⟨left', hleft, h⟩ := bind_eq_ok.1 h
      obtain ⟨right', hright, h⟩ := bind_eq_ok.1 h
      cases h
      exact ⟨keyword, l, r, rfl, rfl, hleft, hright⟩
    | _ => cases h
  · rintro ⟨keyword, l, r, rfl, rfl, hleft, hright⟩
    rw [toTree, hleft, hright]
    rfl

namespace Tree

/-- A value is a tree if and only if its nodes are. -/
theorem ofJson_eq_ok_iff {v : Json} {t : Tree} :
    ofJson v = .ok t ↔ ∃ w, Wire.ofJson v = .ok w ∧ w.toTree = .ok t := by
  unfold ofJson
  cases Wire.ofJson v <;> simp

/-- An object is a leaf if and only if it is of the type of an operand, has a condition for its one
value and leaves both sides out. -/
theorem ofJson_object_eq_leaf_iff {ms : List (String × Json)} {c : Condition} :
    ofJson (.object ms) = .ok (.leaf c) ↔
      (∃ v, under ["type"] ms = [v] ∧ Wire.Kind.ofJson v = .ok .operand) ∧
      (∃ v, under ["value"] ms = [v] ∧ Condition.ofJson v = .ok c) ∧
      Absent "left" ms ∧ Absent "right" ms := by
  rw [ofJson_eq_ok_iff]
  simp only [Wire.toTree_eq_leaf_iff]
  constructor
  · rintro ⟨w, hread, value, rfl, hc⟩
    rw [Wire.ofJson_object_eq_ok_iff, Wire.takes_side_iff, Wire.takes_side_iff] at hread
    simp only [true_and, reduceCtorEq, and_false, exists_false, or_false] at hread
    obtain ⟨htype, hvalue, hleft, hright⟩ := hread
    exact ⟨htype, ⟨value, hvalue, hc⟩, hleft, hright⟩
  · rintro ⟨htype, ⟨value, hvalue, hc⟩, hleft, hright⟩
    refine ⟨_, ?_, value, rfl, hc⟩
    rw [Wire.ofJson_object_eq_ok_iff, Wire.takes_side_iff, Wire.takes_side_iff]
    exact ⟨htype, hvalue, .inl ⟨rfl, hleft⟩, .inl ⟨rfl, hright⟩⟩

/-- An object is a join if and only if it is of the type of an operator, has a keyword for its one
value and a tree on each side. -/
theorem ofJson_object_eq_node_iff {ms : List (String × Json)} {k : Connective}
    {left right : Tree} :
    ofJson (.object ms) = .ok (.node k left right) ↔
      (∃ v, under ["type"] ms = [v] ∧ Wire.Kind.ofJson v = .ok .operator) ∧
      (∃ keyword, under ["value"] ms = [.string keyword] ∧ Connective.ofKeyword keyword = k) ∧
      (∃ l, under ["left"] ms = [l] ∧ ofJson l = .ok left) ∧
      ∃ r, under ["right"] ms = [r] ∧ ofJson r = .ok right := by
  rw [ofJson_eq_ok_iff]
  simp only [Wire.toTree_eq_node_iff]
  constructor
  · rintro ⟨w, hread, keyword, l, r, rfl, hk, hl, hr⟩
    rw [Wire.ofJson_object_eq_ok_iff, Wire.takes_side_iff, Wire.takes_side_iff] at hread
    obtain ⟨htype, hvalue, ⟨h, -⟩ | ⟨lv, l', hlv, hlread, hleq⟩,
      ⟨h, -⟩ | ⟨rv, r', hrv, hrread, hreq⟩⟩ := hread
    · cases h
    · cases h
    · cases h
    · cases hleq
      cases hreq
      exact ⟨htype, ⟨keyword, hvalue, hk⟩, ⟨lv, hlv, ofJson_eq_ok_iff.2 ⟨l, hlread, hl⟩⟩,
        ⟨rv, hrv, ofJson_eq_ok_iff.2 ⟨r, hrread, hr⟩⟩⟩
  · rintro ⟨htype, ⟨keyword, hvalue, hk⟩, ⟨lv, hlv, hleft⟩, ⟨rv, hrv, hright⟩⟩
    obtain ⟨l, hlread, hl⟩ := ofJson_eq_ok_iff.1 hleft
    obtain ⟨r, hrread, hr⟩ := ofJson_eq_ok_iff.1 hright
    refine ⟨_, ?_, keyword, l, r, rfl, hk, hl, hr⟩
    rw [Wire.ofJson_object_eq_ok_iff, Wire.takes_side_iff, Wire.takes_side_iff]
    exact ⟨htype, hvalue, .inr ⟨lv, l, hlv, hlread, rfl⟩, .inr ⟨rv, r, hrv, hrread, rfl⟩⟩

end Tree

end Rulebook
