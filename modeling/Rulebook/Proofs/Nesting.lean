import Rulebook.Proofs.Agreement
import Rulebook.Proofs.Bodies
import Rulebook.Proofs.Members

/-!
# How deep trees nest in JSON

A tree nests one level deeper in JSON than it is deep, and a value that is read as a tree, be it
written with objects or with lists, nests at least so deep. The two bounds hold the limits of the
service together (`Tree.nesting_bounds`): a tree from rule texts has at most `maxDepth` levels, so
that a body with it is never refused for nesting; and a body is read only as deep as texts may nest,
so that no deeper tree is ever evaluated, although the endpoint for evaluations does not look at the
depth of a tree.

From a value to a tree the bound goes by the parts of the value: those that a node is read from nest
less deep than the node (`Wire.mem_parts_of_ofJson`). From the text to the value it goes by what
every field of a record keeps (`Json.Shape.Keeps.exists_of_ofText`).
-/

namespace Rulebook

/-! ## Parts -/

namespace Json

/-- The values right inside a value. -/
def parts : Json → List Json
  | .array items => items
  | .object members => members.map (·.2)
  | _ => []

/-- An item nests no deeper than its array does inside. -/
theorem nesting_le_itemNesting {v : Json} {items : List Json} (h : v ∈ items) :
    v.nesting ≤ itemNesting items := by
  induction items with
  | nil => cases h
  | cons w items ih =>
    rw [itemNesting]
    rcases List.mem_cons.1 h with rfl | h
    · omega
    · have hle := ih h
      omega

/-- A member nests no deeper than its object does inside. -/
theorem nesting_le_memberNesting {m : String × Json} {members : List (String × Json)}
    (h : m ∈ members) : m.2.nesting ≤ memberNesting members := by
  induction members with
  | nil => cases h
  | cons m' members ih =>
    rw [memberNesting]
    rcases List.mem_cons.1 h with rfl | h
    · omega
    · have hle := ih h
      omega

/-- A part of a value nests less deep than the value. -/
theorem nesting_lt_of_mem_parts {v w : Json} (h : w ∈ v.parts) : w.nesting < v.nesting := by
  cases v with
  | array items => exact Nat.lt_succ_of_le (nesting_le_itemNesting h)
  | object members =>
    obtain ⟨m, hm, rfl⟩ := List.mem_map.1 h
    exact Nat.lt_succ_of_le (nesting_le_memberNesting hm)
  | _ => cases h

/-- What stands under some names of an object is part of the object. -/
theorem mem_parts_of_mem_under {names : List String} {members : List (String × Json)} {v : Json}
    (h : v ∈ under names members) : v ∈ (object members).parts := by
  obtain ⟨m, hm, rfl⟩ := List.mem_map.1 h
  exact List.mem_map_of_mem (List.mem_filter.1 hm).1

end Json

/-- A condition is an object or a list. -/
theorem Condition.nesting_pos_of_ofJson {v : Json} {c : Condition} (h : ofJson v = .ok c) :
    0 < v.nesting := by
  cases v with
  | object members => exact Nat.succ_pos _
  | array items => exact Nat.succ_pos _
  | _ => cases h

namespace Wire

/-- A side that is a node is read from a part, if it is taken from one. -/
def SideIn (parts : List Json) (side : Option Wire) : Prop :=
  ∀ w, side = some w → ∃ v ∈ parts, ofJson v = .ok w

/-- A side that is taken from a part is a node only if the part is. -/
theorem sideIn_of_ofChild {parts : List Json} {v : Json} {side : Option Wire} (hv : v ∈ parts)
    (h : ofChild v = .ok side) : SideIn parts side := by
  rintro w rfl
  exact ⟨v, hv, ofChild_eq_ok_some_iff.1 h⟩

/-- What the node of an object is read from is part of the object. -/
theorem mem_parts_of_ofJson_object {members : List (String × Json)} {kind : Kind} {value : Json}
    {left right : Option Wire} (h : ofJson (.object members) = .ok (.mk kind value left right)) :
    value ∈ (Json.object members).parts ∧ SideIn (Json.object members).parts left ∧
      SideIn (Json.object members).parts right := by
  have hside {name : String} {side : Option Wire}
      (h : ∃ part, Json.Takes ofChild none (Json.under [name] members) part ∧ part.join = side) :
      SideIn (Json.object members).parts side := by
    rintro w rfl
    obtain ⟨hnone, -⟩ | ⟨v, w', hv, hread, heq⟩ := takes_side_iff.1 h
    · cases hnone
    · cases heq
      exact ⟨v, Json.mem_parts_of_mem_under (by rw [hv]; exact List.mem_cons_self), hread⟩
  obtain ⟨-, hvalue, hleft, hright⟩ := ofJson_object_eq_ok_iff.1 h
  exact ⟨Json.mem_parts_of_mem_under (by rw [hvalue]; exact List.mem_cons_self), hside hleft,
    hside hright⟩

/-- What the node of a list is read from is on the list. -/
theorem mem_of_ofItems {items : List Json} {kind : Kind} {value : Json}
    {left right : Option Wire} (h : ofItems items = .ok (.mk kind value left right)) :
    value ∈ items ∧ SideIn items left ∧ SideIn items right := by
  match items with
  | [] => cases h
  | [k] =>
    obtain ⟨_, -, h⟩ := bind_eq_ok.1 h
    cases h
  | [k, v] =>
    obtain ⟨_, -, h⟩ := bind_eq_ok.1 h
    cases h
    exact ⟨by simp, nofun, nofun⟩
  | [k, v, l] =>
    obtain ⟨_, -, h⟩ := bind_eq_ok.1 h
    obtain ⟨_, hleft, h⟩ := bind_eq_ok.1 h
    cases h
    exact ⟨by simp, sideIn_of_ofChild (by simp) hleft, nofun⟩
  | k :: v :: l :: r :: rest =>
    obtain ⟨_, -, h⟩ := bind_eq_ok.1 h
    obtain ⟨_, hleft, h⟩ := bind_eq_ok.1 h
    obtain ⟨_, hright, h⟩ := bind_eq_ok.1 h
    split at h
    · cases h
      exact ⟨by simp, sideIn_of_ofChild (by simp) hleft, sideIn_of_ofChild (by simp) hright⟩
    · cases h

/-- What a node is read from is part of the value. -/
theorem mem_parts_of_ofJson {v : Json} {kind : Kind} {value : Json} {left right : Option Wire}
    (h : ofJson v = .ok (.mk kind value left right)) :
    value ∈ v.parts ∧ SideIn v.parts left ∧ SideIn v.parts right := by
  cases v with
  | object members => exact mem_parts_of_ofJson_object h
  | array items => exact mem_of_ofItems h
  | _ => cases h

end Wire

/-- A value that is read as a tree nests one level deeper than the tree, or more. -/
theorem Tree.depth_lt_nesting_of_ofJson {v : Json} {t : Tree} (h : ofJson v = .ok t) :
    t.depth + 1 ≤ v.nesting := by
  induction t generalizing v with
  | leaf c =>
    obtain ⟨w, hread, hw⟩ := ofJson_eq_ok_iff.1 h
    obtain ⟨value, rfl, hc⟩ := Wire.toTree_eq_leaf_iff.1 hw
    obtain ⟨hvalue, -, -⟩ := Wire.mem_parts_of_ofJson hread
    have hpos := Condition.nesting_pos_of_ofJson hc
    have hlt := Json.nesting_lt_of_mem_parts hvalue
    rw [depth]
    omega
  | node k left right ihl ihr =>
    obtain ⟨w, hread, hw⟩ := ofJson_eq_ok_iff.1 h
    obtain ⟨keyword, l, r, rfl, -, hl, hr⟩ := Wire.toTree_eq_node_iff.1 hw
    obtain ⟨-, hleft, hright⟩ := Wire.mem_parts_of_ofJson hread
    obtain ⟨lv, hlv, hlread⟩ := hleft l rfl
    obtain ⟨rv, hrv, hrread⟩ := hright r rfl
    have hlle := ihl (ofJson_eq_ok_iff.2 ⟨l, hlread, hl⟩)
    have hrle := ihr (ofJson_eq_ok_iff.2 ⟨r, hrread, hr⟩)
    have hllt := Json.nesting_lt_of_mem_parts hlv
    have hrlt := Json.nesting_lt_of_mem_parts hrv
    rw [depth]
    omega

/-! ## What is read nests no deeper than texts may -/

namespace Json

/-- An inserted member is the deepest, or another one is. -/
theorem memberNesting_insertMember_le (key : String) (v : Json) (ms : List (String × Json)) :
    memberNesting (insertMember key v ms) ≤ max v.nesting (memberNesting ms) := by
  induction ms with
  | nil => simp [insertMember, memberNesting]
  | cons m ms ih =>
    obtain ⟨k, w⟩ := m
    rw [insertMember]
    split
    · simp only [memberNesting]
      omega
    · split
      · simp only [memberNesting]
        omega
      · simp only [memberNesting]
        omega

/-- An object with some members nests no deeper than they do inside. -/
theorem nesting_ofMembers_le (ms : List (String × Json)) :
    (ofMembers ms).nesting ≤ memberNesting ms + 1 := by
  have hfold (ms acc : List (String × Json)) :
      memberNesting (ms.foldl (fun acc m => insertMember m.1 m.2 acc) acc) ≤
        max (memberNesting acc) (memberNesting ms) := by
    induction ms generalizing acc with
    | nil => simp [memberNesting]
    | cons m ms ih =>
      have hinsert := memberNesting_insertMember_le m.1 m.2 acc
      have hrest := ih (insertMember m.1 m.2 acc)
      rw [List.foldl_cons, memberNesting]
      omega
  have hle := hfold ms []
  rw [ofMembers, nesting]
  simp only [memberNesting] at hle
  omega

namespace Draft

mutual

/-- The value of a draft nests no deeper than there is room. -/
theorem nesting_le_of_toJson? : ∀ {d : Draft} {room : Nat} {v : Json},
    d.toJson? room = some v → v.nesting ≤ room
  | .null, _, _, h => by
    cases h
    exact Nat.zero_le _
  | .bool _, _, _, h => by
    cases h
    exact Nat.zero_le _
  | .number n, _, _, h => by
    obtain ⟨m, -, rfl⟩ := Option.map_eq_some_iff.1 h
    exact Nat.zero_le _
  | .string s, _, _, h => by
    obtain ⟨s', -, rfl⟩ := Option.map_eq_some_iff.1 h
    exact Nat.zero_le _
  | .array items closed, room, v, h => by
    rw [toJson?] at h
    split at h
    · cases h
    · next hroom =>
      obtain ⟨vs, hitems, rfl⟩ := Option.map_eq_some_iff.1 h
      have hle := itemNesting_le_of_itemsToJson? hitems
      rw [nesting]
      omega
  | .object members closed, room, v, h => by
    rw [toJson?] at h
    split at h
    · cases h
    · next hroom =>
      obtain ⟨ms, hmembers, rfl⟩ := Option.map_eq_some_iff.1 h
      have hle := memberNesting_le_of_membersToJson? hmembers
      have hobject := nesting_ofMembers_le ms
      omega
  | .broken, _, _, h => by cases h

/-- The values of items nest no deeper than there is room. -/
theorem itemNesting_le_of_itemsToJson? : ∀ {items : List Draft} {room : Nat} {vs : List Json},
    itemsToJson? room items = some vs → itemNesting vs ≤ room
  | [], _, _, h => by
    cases h
    exact Nat.zero_le _
  | d :: items, room, vs, h => by
    obtain ⟨v, hv, h⟩ := Option.bind_eq_some_iff.1 h
    obtain ⟨rest, hrest, h⟩ := Option.bind_eq_some_iff.1 h
    cases h
    rw [itemNesting]
    exact Nat.max_le.2 ⟨nesting_le_of_toJson? hv, itemNesting_le_of_itemsToJson? hrest⟩

/-- The values of members nest no deeper than there is room. -/
theorem memberNesting_le_of_membersToJson? : ∀ {members : List (Option String × Draft)}
    {room : Nat} {ms : List (String × Json)},
    membersToJson? room members = some ms → memberNesting ms ≤ room
  | [], _, _, h => by
    cases h
    exact Nat.zero_le _
  | (k, d) :: members, room, ms, h => by
    obtain ⟨key, -, h⟩ := Option.bind_eq_some_iff.1 h
    obtain ⟨v, hv, h⟩ := Option.bind_eq_some_iff.1 h
    obtain ⟨rest, hrest, h⟩ := Option.bind_eq_some_iff.1 h
    cases h
    rw [memberNesting]
    exact Nat.max_le.2 ⟨nesting_le_of_toJson? hv, memberNesting_le_of_membersToJson? hrest⟩

end

end Draft

namespace Shape

variable {α β : Type} {s : Shape α β} {P : α → Prop}

/-- Every field of a record keeps something. -/
def Keeps (s : Shape α β) (P : α → Prop) : Prop :=
  ∀ f ∈ s.fields, ∀ p d p', P p → f.read p d = .ok p' → P p'

/-- What every field keeps is kept by the members of an object. -/
theorem Keeps.takeMembers (keeps : s.Keeps P) {members : List (Option String × Draft)} {p p' : α}
    (hp : P p) (h : s.takeMembers p members = .ok p') : P p' := by
  induction members generalizing p with
  | nil =>
    cases h
    exact hp
  | cons m members ih =>
    obtain ⟨_, -, ⟨-, -, hrest⟩ | ⟨f, hfind, -, q, hread, hrest⟩⟩ := takeMembers_cons_eq_ok.1 h
    · exact ih hp hrest
    · have hq := keeps f (List.mem_of_find?_eq_some hfind) p m.2 q hp hread
      exact ih hq hrest

/-- What every field keeps is kept by the items of an array. -/
theorem Keeps.takeItems (keeps : s.Keeps P) {fields : List (Field α)} (hfields : fields ⊆ s.fields)
    {items : List Draft} {index : Nat} {p p' : α} (hp : P p)
    (h : Shape.takeItems p index fields items = .ok p') : P p' := by
  induction items generalizing p index fields with
  | nil =>
    cases fields with
    | nil =>
      cases h
      exact hp
    | cons f fields =>
      cases h
      exact hp
  | cons d items ih =>
    cases fields with
    | nil => cases h
    | cons f fields =>
      obtain ⟨hf, hfields⟩ := List.cons_subset.1 hfields
      obtain ⟨q, hread, h⟩ := bind_eq_ok.1 h
      exact ih hfields (keeps f hf p d q hp (mapError_eq_ok.1 hread)) h

/-- A record is made of parts of which everything is true that every field keeps. -/
theorem Keeps.exists_of_ofDraft (keeps : s.Keeps P) (hstart : P s.start) {d : Draft} {b : β}
    (h : s.ofDraft d = .ok b) : ∃ p, P p ∧ s.finish p = .ok b := by
  cases d with
  | object members closed =>
    obtain ⟨p, htake, h⟩ := bind_eq_ok.1 h
    split at h
    · exact ⟨p, keeps.takeMembers hstart htake, mapError_eq_ok.1 h⟩
    · cases h
  | array items closed =>
    obtain ⟨p, htake, h⟩ := bind_eq_ok.1 h
    split at h
    · exact ⟨p, keeps.takeItems (List.Subset.refl _) hstart htake, mapError_eq_ok.1 h⟩
    · cases h
  | _ => cases h

/-- A record that a text gives is made of parts of which everything is true that every field
keeps. -/
theorem Keeps.exists_of_ofText (keeps : s.Keeps P) (hstart : P s.start) {cs : List Char} {b : β}
    (h : s.ofText cs = .ok b) : ∃ p, P p ∧ s.finish p = .ok b :=
  keeps.exists_of_ofDraft hstart (ofDraft_of_ofText h)

end Shape

end Json

/-- A record that a request brings is read from its body. -/
theorem ofText_of_payload {α β : Type} {shape : Json.Shape α β} {request : Request} {b : β}
    (h : payload shape request = .ok b) : shape.ofText request.body.toList = .ok b := by
  unfold payload at h
  split at h
  · cases h
  · split at h
    · cases h
    · exact mapError_eq_ok.1 h

namespace EvaluationRequest

/-- A value that is read inside a body nests one level less than texts may. -/
theorem nesting_le_of_optional {d : Json.Draft} {v : Json} (h : optional d = .ok (some v)) :
    v.nesting ≤ Json.nestingLimit - 1 := by
  unfold optional at h
  split at h
  · cases h
  · obtain ⟨w, hread, heq⟩ := map_eq_ok.1 h
    cases heq
    unfold Json.Draft.asJson at hread
    split at hread
    · next hvalue =>
      cases hread
      exact Json.Draft.nesting_le_of_toJson? hvalue
    · cases hread

/-- The tree that has been met nests one level less than texts may. -/
def Shallow (p : Parts) : Prop := ∀ v, p.tree = some (some v) → v.nesting ≤ Json.nestingLimit - 1

/-- No field of an evaluation request takes in a tree that nests deeper. -/
theorem keeps_shallow : shape.Keeps Shallow := by
  intro f hf p d p' hp h
  simp only [shape, List.mem_cons, List.not_mem_nil, or_false] at hf
  rcases hf with rfl | rfl | rfl
  · obtain ⟨tree, hread, h⟩ := bind_eq_ok.1 h
    cases h
    rintro v ⟨⟩
    exact nesting_le_of_optional hread
  · obtain ⟨record, -, h⟩ := bind_eq_ok.1 h
    cases h
    exact hp
  · obtain ⟨traced, -, h⟩ := bind_eq_ok.1 h
    cases h
    exact hp

/-- The tree of an evaluation request nests one level less than texts may. -/
theorem nesting_le_of_payload {request : Request} {asked : EvaluationRequest} {v : Json}
    (h : payload shape request = .ok asked) (htree : asked.tree = some v) :
    v.nesting ≤ Json.nestingLimit - 1 := by
  obtain ⟨p, hp, hfinish⟩ :=
    keeps_shallow.exists_of_ofText (fun _ => nofun) (ofText_of_payload h)
  cases hfinish
  exact hp v (Option.join_eq_some_iff.1 htree)

end EvaluationRequest

/-- A tree that is evaluated has two levels less than texts may nest: one is that of the body, and
one that of a condition. -/
theorem Endpoint.depth_le_of_evaluation {request : Request} {traced : Bool} {tree : Tree}
    {record : Record} (h : evaluation request = .ok (traced, tree, record)) :
    tree.depth ≤ Json.nestingLimit - 2 := by
  obtain ⟨asked, hpayload, h⟩ := bind_eq_ok.1 h
  obtain ⟨⟨v, record'⟩, hparts, h⟩ := bind_eq_ok.1 h
  obtain ⟨tree', htree, h⟩ := bind_eq_ok.1 h
  cases h
  have hasked : asked.tree = some v := by
    unfold EvaluationRequest.parts at hparts
    split at hparts
    · next hv _ =>
      cases hparts
      exact hv
    · cases hparts
    · cases hparts
  have hv := EvaluationRequest.nesting_le_of_payload hpayload hasked
  have hdepth := Tree.depth_lt_nesting_of_ofJson (mapError_eq_ok.1 htree)
  omega

/-! ## The limits together -/

/-- A tree nests one level deeper in JSON than it is deep, and every value that is read as the tree
nests at least so deep. A body that brings a tree from rule texts has at most 102 levels, its record
aside, and is read if the record does not nest too deep. A tree that is evaluated has at most 125
levels. -/
theorem Tree.nesting_bounds (t : Tree) :
    t.toJson.nesting = t.depth + 1 ∧
    (∀ v, ofJson v = .ok t → t.depth + 1 ≤ v.nesting) ∧
    ((∃ source, compile source = .ok t) ∨ (∃ sources, combine sources = .ok (some t)) →
      ∀ record traced,
        (EvaluationRequest.body t.toJson record traced).nesting ≤
          max 102 ((Json.object record).nesting + 1) ∧
        ∀ request, PostsEvaluation request t.toJson record traced →
          (Json.object record).nesting < Json.nestingLimit →
          ∃ asked, payload EvaluationRequest.shape request = .ok asked) ∧
    ∀ request traced record, Endpoint.evaluation request = .ok (traced, t, record) →
      t.depth ≤ 125 := by
  have hnesting := t.nesting_toJson
  refine ⟨hnesting, fun v => depth_lt_nesting_of_ofJson, fun written record traced => ?_,
    fun request traced record => Endpoint.depth_le_of_evaluation⟩
  have hdepth : t.depth ≤ maxDepth := by
    rcases written with ⟨source, compiled⟩ | ⟨sources, combined⟩
    · exact depth_le_of_compile compiled
    · exact depth_le_of_combine combined
  constructor
  · have hle : t.depth ≤ 100 := hdepth
    rw [EvaluationRequest.body, Json.nesting]
    simp only [Json.memberNesting, Json.nesting] at hnesting ⊢
    omega
  · intro request posts hrecord
    exact ⟨_, posts.payload_eq t.toJson_ne_null (nesting_toJson_lt hdepth) hrecord⟩

/-- The tree of the rule `a<'1' AND b='x'` is read from lists that nest as deep as its JSON value,
and a body that brings it with a record of two levels is read and evaluated. -/
theorem Tree.nesting_bounds_join :
    let a : Tree := .leaf ⟨"a", .lt, .text "1"⟩
    let b : Tree := .leaf ⟨"b", .eq, .text "x"⟩
    let t : Tree := .node .and a b
    let listedLeaf (field symbol literal : String) : Json := .array [.string "operand",
      .array [.string field, .string symbol, .string literal], .null, .null]
    let listed : Json := .array [.string "operator", .string "AND", listedLeaf "a" "<" "1",
      listedLeaf "b" "=" "x"]
    let record : Record := [("a", .string "0"), ("b", .array [.string "x"])]
    let request : Request := ⟨"POST", "/evaluate_rule", [("content-type", "application/json")],
      (EvaluationRequest.body t.toJson record true).text⟩
    t.toJson.nesting = 3 ∧ ofJson listed = .ok t ∧ 3 ≤ listed.nesting ∧
      (EvaluationRequest.body t.toJson record true).nesting ≤ 102 ∧
        (∃ asked, payload EvaluationRequest.shape request = .ok asked) ∧
          Endpoint.evaluation request = .ok (true, t, record) ∧ t.depth ≤ 125 := by
  intro a b t listedLeaf listed record request
  have hcompiled : compile "a<'1' AND b='x'" = .ok t := by decide +kernel
  have posts : PostsEvaluation request t.toJson record true :=
    ⟨rfl, by decide +kernel +revert, by decide +kernel +revert, rfl, by decide +kernel +revert⟩
  have hread : ofJson listed = .ok t := rfl
  have hrecord : (Json.object record).nesting < Json.nestingLimit := by decide
  have hevaluation : Endpoint.evaluation request = .ok (true, t, record) := by
    have htree := nesting_toJson_lt (depth_le_of_compile hcompiled)
    have hofJson : ofJson t.toJson.reread.canonical = .ok t := t.ofJson_toJson.2
    rw [Endpoint.evaluation, posts.payload_eq t.toJson_ne_null htree hrecord]
    have hcanonical : (Json.object record).reread.canonical = .object record := rfl
    simp only [bind, Except.bind, EvaluationRequest.parts, hofJson, hcanonical, mapError_ok]
    rfl
  obtain ⟨hnesting, hlisted, hbody, hevaluated⟩ := nesting_bounds t
  obtain ⟨hbound, hreads⟩ := hbody (.inl ⟨_, hcompiled⟩) record true
  exact ⟨hnesting, hread, hlisted listed hread, hbound, hreads request posts hrecord, hevaluation,
    hevaluated request true record hevaluation⟩

end Rulebook
