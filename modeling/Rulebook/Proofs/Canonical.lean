import Rulebook.Json.Basic

/-!
# Values as they are read

Reading a text puts the members of every object in ascending order of their keys and keeps the last
of several with one key. `Json.canonical` does the same to a value. The members under a key are the
ones that were there, provided no key stood there twice (`exists_canonical_object`).
-/

namespace Rulebook.Json

mutual

/-- The value with its objects as they are read from a text. -/
def canonical : Json → Json
  | .null => .null
  | .bool b => .bool b
  | .number n => .number n
  | .string s => .string s
  | .array items => .array (canonicalItems items)
  | .object members => ofMembers (canonicalMembers members)

/-- The items of an array, each as it is read. -/
def canonicalItems : List Json → List Json
  | [] => []
  | v :: rest => v.canonical :: canonicalItems rest

/-- The members of an object, each with its value as it is read. -/
def canonicalMembers : List (String × Json) → List (String × Json)
  | [] => []
  | (k, v) :: rest => (k, v.canonical) :: canonicalMembers rest

end

/-- The keys of the members stay as they are. -/
theorem keys_canonicalMembers (ms : List (String × Json)) :
    (canonicalMembers ms).map (·.1) = ms.map (·.1) := by
  induction ms with
  | nil => rw [canonicalMembers]
  | cons m ms ih => rw [canonicalMembers, List.map_cons, List.map_cons, ih]

/-- The first member of an object hides the others under its key. -/
theorem member?_cons (key k : String) (v : Json) (ms : List (String × Json)) :
    member? key ((k, v) :: ms) = if key = k then some v else member? key ms := by
  rw [member?, List.lookup_cons]
  by_cases h : key = k
  · rw [if_pos h, beq_iff_eq.2 h]
  · rw [if_neg h, beq_eq_false_iff_ne.2 h]
    rfl

/-- The member under a key is the one that was there, as it is read. -/
theorem member?_canonicalMembers (key : String) (ms : List (String × Json)) :
    member? key (canonicalMembers ms) = (member? key ms).map canonical := by
  induction ms with
  | nil => rfl
  | cons m ms ih =>
    obtain ⟨k, v⟩ := m
    rw [canonicalMembers, member?_cons, member?_cons, ih]
    split <;> rfl

/-- An inserted member is found under its key, and the others are found as before. -/
theorem member?_insertMember (key k : String) (v : Json) (ms : List (String × Json)) :
    member? key (insertMember k v ms) = if key = k then some v else member? key ms := by
  induction ms with
  | nil =>
    rw [insertMember]
    exact member?_cons key k v []
  | cons m ms ih =>
    obtain ⟨k', v'⟩ := m
    rw [insertMember]
    split
    · exact member?_cons key k v _
    -- A key that is there already gets the new value, and a smaller one is passed over.
    · split
      · next heq =>
        subst heq
        rw [member?_cons, member?_cons]
        split <;> rfl
      · next hne =>
        rw [member?_cons, member?_cons, ih]
        by_cases h : key = k
        · subst h
          rw [if_neg hne, if_pos rfl, if_pos rfl]
        · rw [if_neg h, if_neg h]

/-- Of members with distinct keys, each is found under its key. -/
theorem member?_foldl_insertMember (key : String) {ms : List (String × Json)}
    (distinct : (ms.map (·.1)).Nodup) (before : List (String × Json)) :
    member? key (ms.foldl (fun ms m => insertMember m.1 m.2 ms) before) =
      (member? key ms).or (member? key before) := by
  induction ms generalizing before with
  | nil => rfl
  | cons m ms ih =>
    obtain ⟨k, v⟩ := m
    rw [List.map_cons, List.nodup_cons] at distinct
    obtain ⟨hnew, distinct⟩ := distinct
    rw [List.foldl_cons, ih distinct, member?_insertMember, member?_cons]
    by_cases h : key = k
    · subst h
      -- The key does not come again, so its value is not replaced.
      have hnone : member? key ms = none := by
        refine List.lookup_eq_none_iff.2 fun m hm => ?_
        rw [bne_iff_ne]
        rintro rfl
        exact hnew (List.mem_map.2 ⟨m, hm, rfl⟩)
      rw [if_pos rfl, if_pos rfl, hnone]
      rfl
    · rw [if_neg h, if_neg h]

/-- An object with distinct keys has, as it is read, the members that it had. -/
theorem exists_canonical_object {ms : List (String × Json)}
    (distinct : (ms.map (·.1)).Nodup) :
    ∃ ms', (Json.object ms).canonical = .object ms' ∧
      ∀ key, member? key ms' = (member? key ms).map canonical := by
  rw [canonical, ofMembers]
  refine ⟨_, rfl, fun key => ?_⟩
  have distinct' : ((canonicalMembers ms).map (·.1)).Nodup := by
    rw [keys_canonicalMembers]
    exact distinct
  rw [member?_foldl_insertMember key distinct', member?_canonicalMembers]
  exact Option.or_none

end Rulebook.Json
