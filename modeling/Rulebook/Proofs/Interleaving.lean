import Rulebook.Proofs.Sharing

/-!
# The order of saving with many callers

Saves that are under way at once may take their numbers and place their entries in different orders,
and other calls may fall in between. Whatever the order of the steps, the entries of a shared store
carry different numbers below the next one; an entry that has been placed is there until a delete or
a clear takes it away; and a listing has the rule of a save that had returned before another began
in front of the rule of that other (`Shared.save_order`).

The invariant (`Shared.Consistent`) covers the saves that are under way: the numbers and the ids
that calls hold, placed or not, are their own (`Shared.Owned`). The order in time comes in by
comparing two states of one run: a number that is taken after some state is not below the next
number of that state (`Shared.le_number_of_run`).
-/

namespace Rulebook.Store

/-- An entry that has been placed is that of its call. -/
theorem Progress.held?_of_placed? {p : Progress} {e : Entry} (h : p.placed? = some e) :
    p.held? = some e := by
  cases p with
  | placed e' => exact h
  | _ => cases h

/-- A call that takes away entries has none of its own. -/
theorem Progress.held?_of_takesAway {p : Progress} {id : String} (h : p.TakesAway id) :
    p.held? = none := by
  cases p with
  | deleting _ => rfl
  | clearing _ => rfl
  | _ => cases h

/-- Without an entry none has been placed. -/
theorem Progress.placed?_of_held? {p : Progress} (h : p.held? = none) : p.placed? = none := by
  cases p with
  | placed e => cases h
  | _ => rfl

/-- The ids that rules are given, with one more action. -/
theorem Action.givenIds_concat (actions : List Action) (a : Action) :
    givenIds (actions ++ [a]) = givenIds actions ++ a.givenId?.toList := by
  rw [givenIds, List.filterMap_append]
  cases h : a.givenId? <;> simp [givenIds, h]

/-- The ids that come with a first part of some actions are among all of them. -/
theorem Action.givenIds_sublist (front later : List Action) :
    (givenIds front).Sublist (givenIds (front ++ later)) := by
  rw [givenIds, givenIds, List.filterMap_append]
  exact List.sublist_append_left _ _

namespace Shared

/-- An entry has been taken away, by a call that was asked to delete it or to clear the store, while
it was there. -/
def TakenAway (actions : List Action) (e : Entry) : Prop :=
  ∃ front c later s, actions = front ++ .step c (.remove e.rule.id) :: later ∧
    initial.run front = some s ∧ e ∈ s.store.entries ∧ (s.progress c).TakesAway e.rule.id

/-- One call had returned when another had not begun. -/
def Precedes (actions : List Action) (c d : Nat) : Prop :=
  ∃ front s, front <+: actions ∧ initial.run front = some s ∧ c ∈ s.returned ∧
    s.progress d = .idle

/-- What has been taken away stays so. -/
theorem TakenAway.concat {actions : List Action} {e : Entry} (h : TakenAway actions e)
    (a : Action) : TakenAway (actions ++ [a]) e := by
  obtain ⟨front, c, later, s, rfl, hrun, hmem, hmay⟩ := h
  exact ⟨front, c, later ++ [a], s, by simp, hrun, hmem, hmay⟩

/-- Some actions on an empty store lead to a state, with different ids for the rules and a number
for each of them. -/
structure Reached (actions : List Action) (s : Shared) : Prop where
  run : initial.run actions = some s
  distinct : (Action.givenIds actions).Nodup
  few : (Action.givenIds actions).length < UInt64.size

/-- A state is reached by way of the one after a first part of the actions. -/
theorem Reached.of_append {front later : List Action} {s : Shared}
    (h : Reached (front ++ later) s) :
    ∃ middle, Reached front middle ∧ middle.run later = some s := by
  have hrun := h.run
  rw [run_append] at hrun
  obtain ⟨middle, hfront, hlater⟩ := Option.bind_eq_some_iff.1 hrun
  have hsub := Action.givenIds_sublist front later
  have hfew := Nat.lt_of_le_of_lt hsub.length_le h.few
  exact ⟨middle, ⟨hfront, h.distinct.sublist hsub, hfew⟩, hlater⟩

/-- A state is reached by the last action from the one before. -/
theorem Reached.of_concat {actions : List Action} {a : Action} {s : Shared}
    (h : Reached (actions ++ [a]) s) :
    ∃ before, Reached actions before ∧ before.step? a = some s := by
  obtain ⟨before, hbefore, hstep⟩ := h.of_append
  exact ⟨before, hbefore, by simpa [Shared.run] using hstep⟩

/-- A step of one call keeps what it does not change of its own progress. -/
theorem map_progress_set {α : Type} (f : Progress → α) {s : Shared} (left : Store) {c : Nat}
    {q : Progress} (h : f q = f (s.progress c)) (d : Nat) :
    f ((s.set left c q).progress d) = f (s.progress d) := by
  by_cases hd : d = c
  · subst hd
    rw [progress_set, h]
  · rw [progress_set_of_ne s left q hd]

/-- What comes of the progress of a call after a step of another, or of its own. -/
theorem cases_map_progress_set {α : Type} {f : Progress → Option α} {s : Shared} {left : Store}
    {c d : Nat} {q : Progress} {x : α} (h : f ((s.set left c q).progress d) = some x) :
    d = c ∧ f q = some x ∨ d ≠ c ∧ f (s.progress d) = some x := by
  by_cases hd : d = c
  · subst hd
    rw [progress_set] at h
    exact .inl ⟨rfl, h⟩
  · rw [progress_set_of_ne s left q hd] at h
    exact .inr ⟨hd, h⟩

/-! ## The invariant -/

/-- The numbers and the ids that calls hold are their own and have been given out. -/
structure Owned (actions : List Action) (s : Shared) : Prop where
  next : s.store.next.toNat = (Action.givenIds actions).length
  below : ∀ c e, (s.progress c).held? = some e → e.number.toNat < s.store.next.toNat
  given : ∀ c e, (s.progress c).held? = some e → e.rule.id ∈ Action.givenIds actions
  own : ∀ c d e f, (s.progress c).held? = some e → (s.progress d).held? = some f →
    e.number = f.number ∨ e.rule.id = f.rule.id → c = d

/-- Besides, the entries of the store are entries that calls have placed, and a placed entry is
there unless it has been taken away. -/
structure Consistent (actions : List Action) (s : Shared) : Prop extends Owned actions s where
  placed : ∀ e ∈ s.store.entries, ∃ c, (s.progress c).placed? = some e
  distinct : s.store.ids.Nodup
  kept : ∀ c e, (s.progress c).placed? = some e → e ∈ s.store.entries ∨ TakenAway actions e

namespace Owned

variable {actions : List Action} {s : Shared} {c : Nat}

/-- An action that gives out nothing and leaves the entries of all calls as they are keeps what they
hold. -/
theorem same (h : Owned actions s) {s' : Shared} {a : Action} (given : a.givenId? = none)
    (next : s'.store.next = s.store.next)
    (entry : ∀ d, (s'.progress d).held? = (s.progress d).held?) : Owned (actions ++ [a]) s' := by
  have hids : Action.givenIds (actions ++ [a]) = Action.givenIds actions := by
    rw [Action.givenIds_concat, given]
    exact List.append_nil _
  constructor
  · rw [hids, next]
    exact h.next
  · intro d e he
    rw [next]
    exact h.below d e (entry d ▸ he)
  · intro d e he
    rw [hids]
    exact h.given d e (entry d ▸ he)
  · intro d d' e f he hf
    exact h.own d d' e f (entry d ▸ he) (entry d' ▸ hf)

/-- The next number and a new id are held by no call. -/
theorem fresh (h : Owned actions s) {id : String} (hid : id ∉ Action.givenIds actions) {d : Nat}
    {f : Entry} (hf : (s.progress d).held? = some f) :
    s.store.next ≠ f.number ∧ id ≠ f.rule.id := by
  constructor
  · intro hsame
    have hbelow := h.below d f hf
    rw [hsame] at hbelow
    exact Nat.lt_irrefl _ hbelow
  · intro hsame
    exact hid (hsame ▸ h.given d f hf)

/-- A call that takes the next number for a new id holds them alone. -/
theorem reserves (h : Owned actions s) {source id : String} {now : Instant}
    (hid : id ∉ Action.givenIds actions)
    (few : (Action.givenIds actions).length + 1 < UInt64.size) :
    Owned (actions ++ [.step c (.reserve id now)])
      (s.set s.store.reserve.2 c (.numbered ⟨s.store.next, ⟨id, source, now⟩⟩)) := by
  have hids : Action.givenIds (actions ++ [.step c (.reserve id now)]) =
      Action.givenIds actions ++ [id] := Action.givenIds_concat _ _
  have hcount := h.next
  have hnext : (s.store.next + 1).toNat = s.store.next.toNat + 1 := by
    rw [UInt64.toNat_add]
    exact Nat.mod_eq_of_lt (by rw [hcount]; exact few)
  constructor
  · rw [hids, List.length_append, ← hcount]
    exact hnext
  · intro d e he
    change e.number.toNat < (s.store.next + 1).toNat
    rw [hnext]
    obtain ⟨rfl, hnew⟩ | ⟨-, hold⟩ := cases_map_progress_set he
    · cases hnew
      exact Nat.lt_succ_self _
    · exact Nat.lt_succ_of_lt (h.below d e hold)
  · intro d e he
    rw [hids]
    obtain ⟨rfl, hnew⟩ | ⟨-, hold⟩ := cases_map_progress_set he
    · cases hnew
      exact List.mem_append_right _ List.mem_cons_self
    · exact List.mem_append_left _ (h.given d e hold)
  · intro d d' e f he hf same
    -- What is held by the call itself is new, and what is held by the others is old.
    obtain ⟨rfl, hnew⟩ | ⟨-, hold⟩ := cases_map_progress_set he
    · obtain ⟨rfl, -⟩ | ⟨-, hold'⟩ := cases_map_progress_set hf
      · rfl
      · cases hnew
        obtain ⟨hnumber, hrule⟩ := h.fresh hid hold'
        exact absurd same (not_or.2 ⟨hnumber, hrule⟩)
    · obtain ⟨rfl, hnew'⟩ | ⟨-, hold'⟩ := cases_map_progress_set hf
      · cases hnew'
        obtain ⟨hnumber, hrule⟩ := h.fresh hid hold
        exact absurd same (not_or.2 ⟨hnumber.symm, hrule.symm⟩)
      · exact h.own d d' e f hold hold' same

end Owned

namespace Consistent

variable {actions : List Action} {s : Shared} {c : Nat}

/-- An empty store on which no call has begun is consistent. -/
theorem initial : Consistent [] initial where
  next := rfl
  below := by rintro _ _ ⟨⟩
  given := by rintro _ _ ⟨⟩
  own := by rintro _ _ _ _ ⟨⟩
  placed := by rintro _ ⟨⟩
  distinct := .nil
  kept := by rintro _ _ ⟨⟩

/-- The number of an entry, or its id, tells the entry. -/
theorem eq_of_placed (h : Consistent actions s) {c d : Nat} {e f : Entry}
    (he : (s.progress c).placed? = some e) (hf : (s.progress d).placed? = some f)
    (same : e.number = f.number ∨ e.rule.id = f.rule.id) : e = f := by
  have heq := h.own c d e f (Progress.held?_of_placed? he) (Progress.held?_of_placed? hf) same
  subst heq
  exact Option.some.inj (he.symm.trans hf)

/-- An action that leaves the entries of the store and those that calls have placed as they are
keeps the invariant, if what calls hold stays their own. -/
theorem quiet (h : Consistent actions s) {s' : Shared} {a : Action}
    (owned : Owned (actions ++ [a]) s') (entries : s'.store.entries = s.store.entries)
    (placed : ∀ d, (s'.progress d).placed? = (s.progress d).placed?) :
    Consistent (actions ++ [a]) s' := by
  refine ⟨owned, ?_, ?_, ?_⟩
  · intro e he
    obtain ⟨d, hd⟩ := h.placed e (entries ▸ he)
    exact ⟨d, (placed d).trans hd⟩
  · rw [ids, entries]
    exact h.distinct
  · intro d e he
    rw [entries]
    exact (h.kept d e (placed d ▸ he)).imp_right (·.concat a)

/-- Placing the entry of a call keeps the invariant. -/
theorem inserts (h : Consistent actions s) {entry : Entry}
    (numbered : s.progress c = .numbered entry) :
    Consistent (actions ++ [.step c .insert])
      (s.set (s.store.insert entry) c (.placed entry)) := by
  have hown : (s.progress c).held? = some entry := by rw [numbered]; rfl
  -- The entries that have been placed are those of other calls, with other ids.
  have hother {d : Nat} {e : Entry} (he : (s.progress d).placed? = some e) :
      d ≠ c ∧ e.rule.id ≠ entry.rule.id := by
    have hne : d ≠ c := by
      rintro rfl
      rw [numbered] at he
      cases he
    exact ⟨hne, fun heq => hne (h.own d c e entry (Progress.held?_of_placed? he) hown (.inr heq))⟩
  have hnew : ∀ e ∈ s.store.entries, e.rule.id ≠ entry.rule.id := by
    intro e he
    obtain ⟨d, hd⟩ := h.placed e he
    exact (hother hd).2
  have hentries : (s.store.insert entry).entries = entry :: s.store.entries :=
    entries_insert hnew
  refine ⟨h.same rfl rfl (map_progress_set _ _ hown.symm), ?_, ?_, ?_⟩
  · intro e he
    rw [store_set, hentries] at he
    rcases List.mem_cons.1 he with rfl | he
    · exact ⟨c, by rw [progress_set]; rfl⟩
    · obtain ⟨d, hd⟩ := h.placed e he
      exact ⟨d, by rw [progress_set_of_ne _ _ _ (hother hd).1]; exact hd⟩
  · rw [store_set, ids, hentries, List.map_cons, List.nodup_cons, List.mem_map]
    -- Placing an entry may replace one with the same id, but there is none.
    refine ⟨?_, h.distinct⟩
    rintro ⟨e, he, heq⟩
    exact hnew e he heq
  · intro d e he
    rw [store_set, hentries]
    obtain ⟨rfl, hplaced⟩ | ⟨-, hold⟩ := cases_map_progress_set he
    · cases hplaced
      exact .inl List.mem_cons_self
    · exact (h.kept d e hold).imp (List.mem_cons_of_mem _) (·.concat _)

/-- Taking an entry away keeps the invariant. -/
theorem removes (h : Consistent actions s) (reached : Reached actions s) {id : String}
    {q : Progress} (may : (s.progress c).TakesAway id) (noEntry : q.held? = none) :
    Consistent (actions ++ [.step c (.remove id)]) (s.set (s.store.remove id) c q) := by
  have hnone := Progress.held?_of_takesAway may
  have hplaced (d : Nat) := map_progress_set Progress.placed? (s := s) (s.store.remove id) (q := q)
    ((Progress.placed?_of_held? noEntry).trans (Progress.placed?_of_held? hnone).symm) d
  refine ⟨h.same rfl rfl (map_progress_set _ _ (noEntry.trans hnone.symm)), ?_, ?_, ?_⟩
  · intro e he
    obtain ⟨d, hd⟩ := h.placed e (List.mem_filter.1 he).1
    exact ⟨d, (hplaced d).trans hd⟩
  · exact h.distinct.sublist (List.filter_sublist.map _)
  · -- The entry with the id was there when the call took it away, and the others still are.
    intro d e he
    rcases h.kept d e ((hplaced d).symm.trans he) with hmem | haway
    · by_cases hid : e.rule.id = id
      · subst hid
        exact .inr ⟨actions, c, [], s, rfl, reached.run, hmem, may⟩
      · exact .inl (List.mem_filter.2 ⟨hmem, decide_eq_true hid⟩)
    · exact .inr (haway.concat _)

/-- Every action keeps the invariant. -/
theorem step (h : Consistent actions s) (reached : Reached actions s) {a : Action} {s' : Shared}
    (hstep : s.step? a = some s') (after : Reached (actions ++ [a]) s') :
    Consistent (actions ++ [a]) s' := by
  obtain ⟨c, act, left, q, rfl, -, heffect, rfl⟩ | ⟨c, rfl, rfl⟩ := cases_of_step? hstep
  · cases heffect with
    | quiet given entry placed _ =>
      exact h.quiet (h.same given rfl (map_progress_set _ _ entry)) rfl
        (map_progress_set _ _ placed)
    | @reserves source id now checked =>
      have hdistinct := after.distinct
      have hfew := after.few
      rw [Action.givenIds_concat] at hdistinct hfew
      rw [List.length_append] at hfew
      have hid : id ∉ Action.givenIds actions := fun hmem =>
        (List.nodup_append.1 hdistinct).2.2 _ hmem _ List.mem_cons_self rfl
      exact h.quiet (h.reserves hid hfew) rfl (map_progress_set _ _ (by rw [checked]; rfl))
    | inserts numbered => exact h.inserts numbered
    | removes may entry _ => exact h.removes reached may entry
  · exact h.quiet (h.same rfl rfl fun _ => rfl) rfl fun _ => rfl

end Consistent

/-- Whatever the order of the steps, the state is consistent. -/
theorem Reached.consistent {actions : List Action} {s : Shared} (h : Reached actions s) :
    Consistent actions s := by
  induction actions using List.reverseRecOn generalizing s with
  | nil =>
    cases h.run
    exact .initial
  | append_singleton actions a ih =>
    obtain ⟨before, hbefore, hstep⟩ := h.of_concat
    exact (ih hbefore).step hbefore hstep h

end Shared

/-! ## What listings meet -/

namespace Act.Effect

variable {s left : Store} {p q : Progress} {act : Act}

/-- An entry that has been placed has been placed afterwards. -/
theorem placed?_eq_some (h : act.Effect s p left q) {e : Entry} (he : p.placed? = some e) :
    q.placed? = some e := by
  cases h with
  | quiet _ _ placed _ => exact placed.trans he
  | reserves checked =>
    rw [checked] at he
    cases he
  | inserts numbered =>
    rw [numbered] at he
    cases he
  | removes may _ _ =>
    rw [Progress.placed?_of_held? (Progress.held?_of_takesAway may)] at he
    cases he

/-- A step meets no entry, or one of the store that has not been met. -/
theorem met_eq (h : act.Effect s p left q) :
    q.met = p.met ∨
      ∃ e ∈ s.entries, e.rule.id ∉ p.met.map (·.rule.id) ∧ q.met = p.met ++ [e] := by
  cases h with
  | quiet _ _ _ met => exact met
  | reserves checked =>
    rw [checked]
    exact .inl rfl
  | inserts numbered =>
    rw [numbered]
    exact .inl rfl
  | removes may _ met =>
    cases p with
    | deleting _ => exact .inl met
    | clearing _ => exact .inl met
    | _ => cases may

end Act.Effect

namespace Shared

/-- An entry that has been placed has been placed after every action. -/
theorem placed?_of_step? {s s' : Shared} {a : Action} (hstep : s.step? a = some s') {d : Nat}
    {e : Entry} (he : (s.progress d).placed? = some e) : (s'.progress d).placed? = some e := by
  obtain ⟨c, act, left, q, rfl, -, heffect, rfl⟩ | ⟨c, rfl, rfl⟩ := cases_of_step? hstep
  · by_cases hd : d = c
    · subst hd
      rw [progress_set]
      exact heffect.placed?_eq_some he
    · rw [progress_set_of_ne _ _ _ hd]
      exact he
  · exact he

/-- A call meets no entry by an action, or one of the store that it has not met. -/
theorem met_of_step? {s s' : Shared} {a : Action} (hstep : s.step? a = some s') (d : Nat) :
    (s'.progress d).met = (s.progress d).met ∨
      ∃ e ∈ s.store.entries, e.rule.id ∉ (s.progress d).met.map (·.rule.id) ∧
        (s'.progress d).met = (s.progress d).met ++ [e] := by
  obtain ⟨c, act, left, q, rfl, -, heffect, rfl⟩ | ⟨c, rfl, rfl⟩ := cases_of_step? hstep
  · by_cases hd : d = c
    · subst hd
      rw [progress_set]
      exact heffect.met_eq
    · rw [progress_set_of_ne _ _ _ hd]
      exact .inl rfl
  · exact .inl rfl

/-- What calls have met are entries that calls have placed, each met once by a call. -/
structure Meets (s : Shared) : Prop where
  placed : ∀ c, ∀ e ∈ (s.progress c).met, ∃ d, (s.progress d).placed? = some e
  once : ∀ c, ((s.progress c).met.map (·.rule.id)).Nodup

/-- Every action keeps that what has been met has been placed. -/
theorem Meets.step {actions : List Action} {s s' : Shared} (h : Meets s)
    (consistent : Consistent actions s) {a : Action} (hstep : s.step? a = some s') : Meets s' := by
  have hplaced {e : Entry} (he : ∃ d, (s.progress d).placed? = some e) :
      ∃ d, (s'.progress d).placed? = some e := by
    obtain ⟨d, hd⟩ := he
    exact ⟨d, placed?_of_step? hstep hd⟩
  constructor
  · intro c e he
    obtain hsame | ⟨f, hf, -, hmore⟩ := met_of_step? hstep c
    · exact hplaced (h.placed c e (hsame ▸ he))
    · rw [hmore, List.mem_append, List.mem_singleton] at he
      rcases he with he | rfl
      · exact hplaced (h.placed c e he)
      · exact hplaced (consistent.placed e hf)
  · intro c
    obtain hsame | ⟨f, -, hunmet, hmore⟩ := met_of_step? hstep c
    · rw [hsame]
      exact h.once c
    · rw [hmore, List.map_append]
      refine List.nodup_append.2 ⟨h.once c, List.nodup_singleton _, ?_⟩
      rintro id hid _ hnew rfl
      have heq : id = f.rule.id := List.mem_singleton.1 hnew
      exact hunmet (heq ▸ hid)

/-- Whatever the order of the steps, what has been met has been placed, and is met once. -/
theorem Reached.meets {actions : List Action} {s : Shared} (h : Reached actions s) : Meets s := by
  induction actions using List.reverseRecOn generalizing s with
  | nil =>
    cases h.run
    exact ⟨by rintro _ _ ⟨⟩, fun _ => .nil⟩
  | append_singleton actions a ih =>
    obtain ⟨before, hbefore, hstep⟩ := h.of_concat
    exact (ih hbefore).step hbefore.consistent hstep

/-! ## The order in time -/

/-- A call that has returned stays as it is. -/
theorem returned_of_step? {s s' : Shared} {a : Action} (hstep : s.step? a = some s') {c : Nat}
    (hc : c ∈ s.returned) : c ∈ s'.returned ∧ s'.progress c = s.progress c := by
  obtain ⟨d, act, left, q, rfl, hactive, -, rfl⟩ | ⟨d, rfl, rfl⟩ := cases_of_step? hstep
  · have hne : c ≠ d := by
      rintro rfl
      exact hactive hc
    exact ⟨hc, progress_set_of_ne _ _ _ hne⟩
  · exact ⟨List.mem_cons_of_mem _ hc, rfl⟩

/-- A call that has returned stays as it is, whatever follows. -/
theorem returned_of_run {s s' : Shared} {later : List Action} (run : s.run later = some s')
    {c : Nat} (hc : c ∈ s.returned) : c ∈ s'.returned ∧ s'.progress c = s.progress c := by
  induction later generalizing s with
  | nil =>
    cases run
    exact ⟨hc, rfl⟩
  | cons a later ih =>
    obtain ⟨middle, hstep, hrun⟩ := Option.bind_eq_some_iff.1 run
    obtain ⟨hmiddle, hsame⟩ := returned_of_step? hstep hc
    obtain ⟨hlater, hsame'⟩ := ih hrun hmiddle
    exact ⟨hlater, hsame'.trans hsame⟩

/-- An entry has its number already, or gets the next one. -/
theorem held?_of_step? {s s' : Shared} {a : Action} (hstep : s.step? a = some s') {d : Nat}
    {e : Entry} (he : (s'.progress d).held? = some e) :
    (s.progress d).held? = some e ∨ e.number = s.store.next := by
  obtain ⟨c, act, left, q, rfl, -, heffect, rfl⟩ | ⟨c, rfl, rfl⟩ := cases_of_step? hstep
  · obtain ⟨rfl, hq⟩ | ⟨-, hold⟩ := cases_map_progress_set he
    · cases heffect with
      | quiet _ entry _ _ => exact .inl (entry ▸ hq)
      | reserves _ =>
        cases hq
        exact .inr rfl
      | inserts numbered =>
        rw [numbered]
        exact .inl hq
      | removes _ entry _ =>
        rw [entry] at hq
        cases hq
    · exact .inl hold
  · exact .inl he

/-- A number that is taken after some state is not below the next number of that state. -/
theorem le_number_of_run {front later : List Action} {middle s : Shared}
    (hfront : Reached front middle) (hlater : middle.run later = some s)
    (reached : Reached (front ++ later) s) {d : Nat} {e : Entry}
    (before : (middle.progress d).held? = none) (after : (s.progress d).held? = some e) :
    middle.store.next.toNat ≤ e.number.toNat := by
  -- By the actions from the last one: the number was there before it, or it is taken by it.
  induction later using List.reverseRecOn generalizing s with
  | nil =>
    cases hlater
    cases before.symm.trans after
  | append_singleton later a ih =>
    rw [← List.append_assoc] at reached
    obtain ⟨last, hlast, hstep⟩ := reached.of_concat
    have hrun : middle.run later = some last := by
      have hlastRun := hlast.run
      rw [run_append, hfront.run] at hlastRun
      exact hlastRun
    rcases held?_of_step? hstep after with hold | hnumber
    · exact ih hrun hlast hold
    · -- The number counts the ids that were given before it, those of the first part among them.
      rw [hnumber, hfront.consistent.next, hlast.consistent.next]
      exact (Action.givenIds_sublist front later).length_le

/-- A save that had returned before another began has the smaller number. -/
theorem Reached.number_lt {actions : List Action} {s : Shared} (h : Reached actions s) {c d : Nat}
    (precedes : Precedes actions c d) {e f : Entry} (he : (s.progress c).held? = some e)
    (hf : (s.progress d).held? = some f) : e.number < f.number := by
  obtain ⟨front, middle, ⟨later, rfl⟩, hfront, hreturned, hidle⟩ := precedes
  obtain ⟨middle', hreached, hlater⟩ := h.of_append
  cases hfront.symm.trans hreached.run
  -- In between, the first save has its number and the second one has none yet.
  have hsame := (returned_of_run hlater hreturned).2
  have hbelow : e.number.toNat < middle.store.next.toNat :=
    hreached.consistent.below c e (hsame ▸ he)
  have hnone : (middle.progress d).held? = none := by rw [hidle]; rfl
  have hle : middle.store.next.toNat ≤ f.number.toNat :=
    le_number_of_run hreached hlater h hnone hf
  exact UInt64.lt_iff_toNat_lt.2 (Nat.lt_of_lt_of_le hbelow hle)

end Shared

/-- Of two entries with different numbers a sorted list has that with the smaller one in front. -/
theorem pair_sublist_of_sorted {entries : List Entry}
    (sorted : entries.Pairwise fun a b => a.number ≤ b.number) {e f : Entry} (he : e ∈ entries)
    (hf : f ∈ entries) (hlt : e.number < f.number) : [e, f].Sublist entries := by
  induction entries with
  | nil => cases he
  | cons first rest ih =>
    obtain ⟨hfirst, hrest⟩ := List.pairwise_cons.1 sorted
    rcases List.mem_cons.1 hf with heq | hf'
    · -- Nothing in the list has a smaller number than its first entry.
      have hle : f.number ≤ e.number := by
        rcases List.mem_cons.1 he with heq' | he'
        · rw [heq, heq']
          exact UInt64.le_refl _
        · exact heq ▸ hfirst e he'
      exact absurd hlt (UInt64.not_lt.2 hle)
    · rcases List.mem_cons.1 he with heq | he'
      · rw [heq]
        exact (List.singleton_sublist.2 hf').cons_cons _
      · exact (ih hrest he' hf').cons _

/-- A listing has the entries that have been met in the order of their numbers. -/
theorem pair_sublist_toList {s : Store} {e f : Entry} (he : e ∈ s.entries) (hf : f ∈ s.entries)
    (hlt : e.number < f.number) : [e.rule, f.rule].Sublist s.toList := by
  have hperm := List.mergeSort_perm s.entries fun a b => a.number ≤ b.number
  have hpair := pair_sublist_of_sorted (pairwise_mergeSort_number _) (hperm.mem_iff.2 he)
    (hperm.mem_iff.2 hf) hlt
  exact hpair.map Entry.rule

/-- A listing has the rules of the entries that it has met. -/
theorem Progress.eq_of_answer?_listed {p : Progress} {rules : List StoredRule}
    (h : p.answer? = some (.listed rules)) : rules = toList ⟨p.met, 0⟩ := by
  revert h
  fun_cases Progress.answer? p with
  | case5 met =>
    rintro ⟨⟩
    rfl
  | _ => rintro ⟨⟩

namespace Shared

variable {actions : List Action} {s : Shared}

/-- The answer of a call is that of its progress. -/
theorem progress_answer?_of_answer? {c : Nat} {answer : Answer} (h : s.answer? c = some answer) :
    (s.progress c).answer? = some answer := by
  unfold Shared.answer? at h
  split at h
  · exact h
  · cases h

/-- What has been listed are the rules of the entries that the call has met, in the order of their
numbers. -/
theorem eq_toList_of_listed {l : Nat} {rules : List StoredRule}
    (h : s.answer? l = some (.listed rules)) : rules = toList ⟨(s.progress l).met, 0⟩ :=
  Progress.eq_of_answer?_listed (progress_answer?_of_answer? h)

/-- No two listed rules have one id. -/
theorem Reached.nodup_listed (h : Reached actions s) {l : Nat} {rules : List StoredRule}
    (listed : s.answer? l = some (.listed rules)) : (rules.map (·.id)).Nodup := by
  have hperm := List.mergeSort_perm (s.progress l).met fun a b => a.number ≤ b.number
  rw [eq_toList_of_listed listed, toList, List.map_map]
  exact (hperm.map _).nodup_iff.2 (h.meets.once l)

/-- An entry that has been placed and whose rule is listed has been met. -/
theorem Reached.mem_met_of_listed (h : Reached actions s) {c l : Nat} {e : Entry}
    {rules : List StoredRule} (placed : (s.progress c).placed? = some e)
    (listed : s.answer? l = some (.listed rules)) (hrule : e.rule ∈ rules) :
    e ∈ (s.progress l).met := by
  rw [eq_toList_of_listed listed, toList] at hrule
  obtain ⟨e', hmem, heq⟩ := List.mem_map.1 hrule
  have hmet := (List.mergeSort_perm _ _).subset hmem
  obtain ⟨d, hd⟩ := h.meets.placed l e' hmet
  -- The ids of rules that calls have placed differ, so the entry that was met is the same one.
  have hsame := h.consistent.eq_of_placed hd placed (.inr (congrArg StoredRule.id heq))
  exact hsame ▸ hmet

/-- However the steps of any number of calls on an empty store follow each other, as long as the ids
of the rules differ and the numbers last: the entries of the store have different numbers below the
next one; an entry that a save has placed is there, unless a delete or a clear has taken it away
after that; and a listing has a rule only once, and the rule of a save that had returned before
another began in front of the rule of that other, if it has both. -/
theorem save_order (run : initial.run actions = some s)
    (distinct : (Action.givenIds actions).Nodup)
    (few : (Action.givenIds actions).length < UInt64.size) :
    ((∀ e ∈ s.store.entries, e.number < s.store.next) ∧
      (s.store.entries.map (·.number)).Nodup) ∧
    (∀ c e, s.progress c = .placed e → e ∈ s.store.entries ∨ TakenAway actions e) ∧
    ∀ l rules, s.answer? l = some (.listed rules) →
      (rules.map (·.id)).Nodup ∧
      ∀ c d e f, Precedes actions c d → s.progress c = .placed e → s.progress d = .placed f →
        e.rule ∈ rules → f.rule ∈ rules → [e.rule, f.rule].Sublist rules := by
  have hreached : Reached actions s := ⟨run, distinct, few⟩
  have hconsistent := hreached.consistent
  have hplaced {c : Nat} {e : Entry} (h : s.progress c = .placed e) :
      (s.progress c).placed? = some e := by rw [h]; rfl
  refine ⟨⟨?below, ?distinct⟩, ?kept, fun l rules hlisted => ⟨?once, ?order⟩⟩
  case below =>
    intro e he
    obtain ⟨c, hc⟩ := hconsistent.placed e he
    exact UInt64.lt_iff_toNat_lt.2 (hconsistent.below c e (Progress.held?_of_placed? hc))
  case distinct =>
    have hentries : s.store.entries.Nodup := .of_map _ hconsistent.distinct
    refine (List.nodup_map_iff_inj_on hentries).2 fun e he f hf hnumber => ?_
    obtain ⟨c, hc⟩ := hconsistent.placed e he
    obtain ⟨d, hd⟩ := hconsistent.placed f hf
    exact hconsistent.eq_of_placed hc hd (.inl hnumber)
  case kept =>
    intro c e hc
    exact hconsistent.kept c e (hplaced hc)
  case once => exact hreached.nodup_listed hlisted
  case order =>
    intro c d e f hprecedes hc hd he hf
    have hlt : e.number < f.number := hreached.number_lt hprecedes
      (Progress.held?_of_placed? (hplaced hc)) (Progress.held?_of_placed? (hplaced hd))
    rw [eq_toList_of_listed hlisted]
    exact pair_sublist_toList (hreached.mem_met_of_listed (hplaced hc) hlisted he)
      (hreached.mem_met_of_listed (hplaced hd) hlisted hf) hlt

/-- Two saves place their entries the other way round, and one begins while the store is listed; the
last is met first, and an entry is deleted before it is met. -/
theorem save_order_interleaved :
    let x : Entry := ⟨0, "x", "a<'1'", 0, 0⟩
    let z : Entry := ⟨2, "z", "c<'3'", 2, 0⟩
    let actions : List Action := [.step 0 (.start (.save x.rule.source)), .step 0 .check,
      .step 1 (.start (.save "b='2'")), .step 1 .check, .step 0 (.reserve "x" ⟨0, 0⟩),
      .step 1 (.reserve "y" ⟨1, 0⟩), .step 1 .insert, .step 0 .insert, .finish 0,
      .step 3 (.start .list), .step 2 (.start (.save z.rule.source)), .step 2 .check,
      .step 2 (.reserve "z" ⟨2, 0⟩), .step 2 .insert, .step 3 (.visit "z"),
      .step 4 (.start (.delete "y")), .step 4 (.remove "y"), .step 3 (.visit "y"),
      .step 3 (.visit "x"), .finish 1, .finish 4, .finish 3]
    ∃ s rules, initial.run actions = some s ∧ s.answer? 3 = some (.listed rules) ∧
      [x.rule, z.rule].Sublist rules := by
  intro x z actions
  have hends : (initial.run actions).map
      (fun s => (s.progress 0, s.progress 2, s.progress 3, s.returned)) =
        some (.placed x, .placed z, .listing [] [z, x], [3, 4, 1, 0]) := by decide +kernel +revert
  have hfront : (initial.run (actions.take 9)).map (fun s => (s.returned, s.progress 2)) =
      some ([0], .idle) := by decide +kernel +revert
  have hids : Action.givenIds actions = ["x", "y", "z"] := rfl
  have hsorted : [x, z].Pairwise fun a b => a.number < b.number :=
    List.pairwise_pair.2 (show (0 : UInt64) < 2 by decide)
  have hrules : toList ⟨[z, x], 0⟩ = [x.rule, z.rule] :=
    congrArg (List.map Entry.rule) (mergeSort_eq_of_perm (.swap x z []) hsorted)
  obtain ⟨s, hrun, hs⟩ := Option.map_eq_some_iff.1 hends
  obtain ⟨middle, hmiddle, hm⟩ := Option.map_eq_some_iff.1 hfront
  simp only [Prod.mk.injEq] at hs hm
  obtain ⟨hx, hz, hmet, hreturned⟩ := hs
  have hprecedes : Precedes actions 0 2 :=
    ⟨_, middle, List.take_prefix 9 _, hmiddle, by simp [hm.1], hm.2⟩
  have hanswer : s.answer? 3 = some (.listed [x.rule, z.rule]) := by
    rw [answer?, hreturned, hmet, ← hrules]
    rfl
  obtain ⟨-, -, hlisting⟩ := save_order hrun (by rw [hids]; decide) (by rw [hids]; decide)
  exact ⟨s, _, hrun, hanswer, (hlisting 3 _ hanswer).2 0 2 x z hprecedes hx hz (by simp) (by simp)⟩

end Shared

end Rulebook.Store
