import Rulebook.Proofs.Canonical
import Rulebook.Proofs.JsonTokens

/-!
# Reading what has been written

The compact text of a value is read as the value with its objects in order (`read?_chars`), provided
its doubles read back and it does not nest deeper than texts may. Reading stops nowhere before the
end: the tokens of a value take the reader from where a value is wanted to behind the value,
whatever is open around it (`foldl_step_tokens`).
-/

namespace Rulebook.Json

mutual

/-- The draft of the text of a value. -/
def draft : Json → Draft
  | .null => .null
  | .bool b => .bool b
  | .number n => .number (some n)
  | .string s => .string (some s)
  | .array items => .array (itemDrafts items) true
  | .object members => .object (memberDrafts members) true

/-- The drafts of an array's items. -/
def itemDrafts : List Json → List Draft
  | [] => []
  | v :: rest => draft v :: itemDrafts rest

/-- The drafts of an object's members. -/
def memberDrafts : List (String × Json) → List (Option String × Draft)
  | [] => []
  | (k, v) :: rest => (some k, draft v) :: memberDrafts rest

end

/-- The drafts of members have their keys as names. -/
theorem memberDrafts_eq_map (members : List (String × Json)) :
    memberDrafts members = members.map fun m => (some m.1, m.2.draft) := by
  induction members with
  | nil => rfl
  | cons m members ih => exact congrArg ((some m.1, m.2.draft) :: ·) ih

mutual

/-- The number of arrays and objects that are open at once in a value. -/
def nesting : Json → Nat
  | .array items => itemNesting items + 1
  | .object members => memberNesting members + 1
  | _ => 0

/-- The number of arrays and objects that are open at once in an array's items. -/
def itemNesting : List Json → Nat
  | [] => 0
  | v :: rest => max (nesting v) (itemNesting rest)

/-- The number of arrays and objects that are open at once in an object's members. -/
def memberNesting : List (String × Json) → Nat
  | [] => 0
  | (_, v) :: rest => max (nesting v) (memberNesting rest)

end

namespace Draft

mutual

/-- The tokens of a value take the reader behind the value. -/
theorem foldl_step_tokens : ∀ (v : Json) (frames : List Frame),
    v.tokens.foldl step (.reading .value frames) = place v.draft frames ∧
      v.tokens.foldl step (.reading .firstItem frames) = place v.draft frames
  | .null, frames => ⟨rfl, rfl⟩
  | .bool b, frames => ⟨rfl, rfl⟩
  | .number n, frames => ⟨rfl, rfl⟩
  | .string s, frames => ⟨rfl, rfl⟩
  | .array items, frames => by
    have hitems := foldl_step_itemTokens items true [] frames
    rw [tokens, draft]
    exact ⟨hitems, hitems⟩
  | .object members, frames => by
    have hmembers := foldl_step_memberTokens members true [] frames
    rw [tokens, draft]
    exact ⟨hmembers, hmembers⟩

/-- The tokens of items up to the end of their array take the reader behind the array. -/
theorem foldl_step_itemTokens : ∀ (items : List Json) (first : Bool) (before : List Draft)
    (outer : List Frame),
    (itemTokens first items ++ [Token.closeBracket]).foldl step
        (.reading (if first then .firstItem else .comma) (.array before :: outer)) =
      place (.array (before.reverse ++ itemDrafts items) true) outer
  | [], first, before, outer => by
    rw [itemTokens, itemDrafts, List.append_nil]
    cases first <;> rfl
  | v :: items, first, before, outer => by
    -- The first item is read where an item or the end is wanted, the others behind a comma.
    obtain ⟨hvalue, hfirst⟩ := foldl_step_tokens v (.array before :: outer)
    have hitems := foldl_step_itemTokens items false (v.draft :: before) outer
    rw [List.reverse_cons, List.append_assoc, List.singleton_append] at hitems
    have hplace : ((if first then [] else [Token.comma]) ++ v.tokens).foldl step
        (.reading (if first then .firstItem else .comma) (.array before :: outer)) =
          .reading .comma (.array (v.draft :: before) :: outer) := by
      cases first with
      | true => exact hfirst
      | false => exact hvalue
    rw [itemTokens, itemDrafts, List.append_assoc, List.foldl_append, hplace]
    exact hitems

/-- The tokens of members up to the end of their object take the reader behind the object. -/
theorem foldl_step_memberTokens : ∀ (members : List (String × Json)) (first : Bool)
    (before : List (Option String × Draft)) (outer : List Frame),
    (memberTokens first members ++ [Token.closeBrace]).foldl step
        (.reading (if first then .firstKey else .comma) (.object before :: outer)) =
      place (.object (before.reverse ++ memberDrafts members) true) outer
  | [], first, before, outer => by
    rw [memberTokens, memberDrafts, List.append_nil]
    cases first <;> rfl
  | (k, v) :: members, first, before, outer => by
    obtain ⟨hvalue, -⟩ := foldl_step_tokens v (.member before (some k) :: outer)
    have hmembers := foldl_step_memberTokens members false ((some k, v.draft) :: before) outer
    rw [List.reverse_cons, List.append_assoc, List.singleton_append] at hmembers
    have hkey : ((if first then [] else [Token.comma]) ++ [Token.string (some k)]).foldl step
        (.reading (if first then .firstKey else .comma) (.object before :: outer)) =
          .reading .colon (.member before (some k) :: outer) := by
      cases first <;> rfl
    rw [memberTokens, memberDrafts, List.append_assoc, List.foldl_append, hkey, List.cons_append,
      List.foldl_cons, List.append_assoc, List.foldl_append, step, hvalue]
    exact hmembers

end

mutual

/-- The draft of a value has the value, with its objects in order, if there is room. -/
theorem toJson?_draft : ∀ (v : Json) {room : Nat}, v.nesting ≤ room →
    v.draft.toJson? room = some v.canonical
  | .null, _, _ => rfl
  | .bool b, _, _ => rfl
  | .number n, _, _ => rfl
  | .string s, _, _ => rfl
  | .array items, room, h => by
    rw [nesting] at h
    obtain ⟨room, rfl⟩ : ∃ k, room = k + 1 := Nat.exists_eq_add_of_le' (by omega)
    have hitems := itemsToJson?_itemDrafts items (Nat.le_of_succ_le_succ h)
    rw [draft, toJson?, canonical, if_neg (by simp), Nat.add_sub_cancel, hitems]
    rfl
  | .object members, room, h => by
    rw [nesting] at h
    obtain ⟨room, rfl⟩ : ∃ k, room = k + 1 := Nat.exists_eq_add_of_le' (by omega)
    have hmembers := membersToJson?_memberDrafts members (Nat.le_of_succ_le_succ h)
    rw [draft, toJson?, canonical, if_neg (by simp), Nat.add_sub_cancel, hmembers]
    rfl

/-- The drafts of items have the items. -/
theorem itemsToJson?_itemDrafts : ∀ (items : List Json) {room : Nat}, itemNesting items ≤ room →
    itemsToJson? room (itemDrafts items) = some (canonicalItems items)
  | [], _, _ => rfl
  | v :: items, room, h => by
    rw [itemNesting] at h
    rw [itemDrafts, itemsToJson?, canonicalItems, toJson?_draft v (by omega),
      itemsToJson?_itemDrafts items (by omega)]
    rfl

/-- The drafts of members have the members. -/
theorem membersToJson?_memberDrafts : ∀ (members : List (String × Json)) {room : Nat},
    memberNesting members ≤ room →
      membersToJson? room (memberDrafts members) = some (canonicalMembers members)
  | [], _, _ => rfl
  | (k, v) :: members, room, h => by
    rw [memberNesting] at h
    rw [memberDrafts, membersToJson?, canonicalMembers, toJson?_draft v (by omega),
      membersToJson?_memberDrafts members (by omega)]
    rfl

end

/-- The text of a value is read to its end, with its numbers as they are read alone. -/
theorem readText_chars (v : Json) : readText v.chars = .complete v.reread.draft := by
  rw [readText, Token.ofText_chars]
  exact (foldl_step_tokens v.reread []).1

end Draft

/-- The text of a value is read as the value, with its objects in order. -/
theorem read?_chars {v : Json} (readsBack : ∀ n ∈ v.doubles, n.ReadsBack)
    (hnesting : v.nesting ≤ nestingLimit) : read? v.chars = some v.canonical := by
  rw [read?, Draft.readText_chars, reread_eq_self readsBack]
  exact Draft.toJson?_draft v hnesting

mutual

/-- Numbers do not nest. -/
theorem nesting_reread : ∀ v : Json, v.reread.nesting = v.nesting
  | .null => rfl
  | .bool _ => rfl
  | .number _ => rfl
  | .string _ => rfl
  | .array items => by rw [reread, nesting, nesting, itemNesting_reread]
  | .object members => by rw [reread, nesting, nesting, memberNesting_reread]

/-- Numbers do not nest in items. -/
theorem itemNesting_reread : ∀ items : List Json,
    itemNesting (rereadItems items) = itemNesting items
  | [] => rfl
  | v :: items => by
    rw [rereadItems, itemNesting, itemNesting, nesting_reread, itemNesting_reread]

/-- Numbers do not nest in members. -/
theorem memberNesting_reread : ∀ members : List (String × Json),
    memberNesting (rereadMembers members) = memberNesting members
  | [] => rfl
  | (k, v) :: members => by
    rw [rereadMembers, memberNesting, memberNesting, nesting_reread, memberNesting_reread]

end

end Rulebook.Json
