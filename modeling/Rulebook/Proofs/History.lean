import Mathlib.Data.List.Induction
import Mathlib.Data.List.Nodup
import Rulebook.Proofs.Outcome
import Rulebook.Rule.Store

/-!
# The history of a store

A store lists the rules of its successful saves that no later call has taken away, in the order of
saving, whatever calls have been made on it: this list (`surviving`) can be read off the calls and
their answers alone, without the store. What else the store answers agrees with the list, and a call
that fails or only reads makes no difference to any later answer (`answers_after_calls`).

Several handles may lead to one store. They share its entries and the next number, so the calls of
all of them make one history, and it does not matter which handle a call has come by.

Every call saves one rule, takes one rule away, takes all away or leaves the store alone
(`cases_of_perform`). The invariant (`Records`) is that the entries, in whatever order they are
kept, carry the surviving rules with ascending numbers below the next one.
-/

namespace Rulebook.Store

/-- A call on a store. A save comes with the id and the time that the rule is given. -/
inductive Call where
  | save (id : String) (now : Instant) (source : String)
  | get (id : String)
  | contains (id : String)
  | delete (id : String)
  | list
  | clear
  | compile (id : String)
  | combine (ids : List String)
  | size
  | isEmpty

/-- What a call is answered with. -/
inductive Answer where
  | saved (rule : StoredRule)
  | found (rule : Option StoredRule)
  | decided (value : Bool)
  | done
  | listed (rules : List StoredRule)
  | tree (tree : Option Tree)
  | counted (number : Nat)
  | failed (cause : RuleError)

/-- The answer to a call, and the store that it leaves. -/
def Call.perform (s : Store) : Call → Answer × Store
  | .save id now source =>
    match s.save id now source with
    | .ok (rule, s) => (.saved rule, s)
    | .error e => (.failed e, s)
  | .get id => (.found (s.get? id), s)
  | .contains id => (.decided (s.contains id), s)
  | .delete id =>
    match s.delete id with
    | .ok s => (.done, s)
    | .error e => (.failed e, s)
  | .list => (.listed s.toList, s)
  | .clear => (.done, s.clear)
  | .compile id =>
    match s.compile id with
    | .ok t => (.tree (some t), s)
    | .error e => (.failed e, s)
  | .combine ids =>
    match s.combine ids with
    | .ok t => (.tree t, s)
    | .error e => (.failed e, s)
  | .size => (.counted s.size, s)
  | .isEmpty => (.decided s.isEmpty, s)

/-- Whether a call only reads. -/
def Call.isReading : Call → Bool
  | .save _ _ _ => false
  | .delete _ => false
  | .clear => false
  | _ => true

/-- The store that some calls leave. -/
def after (s : Store) (calls : List Call) : Store :=
  calls.foldl (fun s call => (call.perform s).2) s

/-- A call and its answer. -/
abbrev Event := Call × Answer

/-- Some calls on a store, each with its answer. -/
def history (s : Store) : List Call → List Event
  | [] => []
  | call :: later => (call, (call.perform s).1) :: history (call.perform s).2 later

namespace Event

/-- The rule that has been saved. -/
def saved? : Event → Option StoredRule
  | (_, .saved rule) => some rule
  | _ => none

/-- Whether a rule with this id is taken away. -/
def removes (id : String) : Event → Bool
  | (.delete id', .done) => id' = id
  | (.clear, .done) => true
  | _ => false

end Event

/-- The rules that have been saved. -/
def saves (events : List Event) : List StoredRule := events.filterMap Event.saved?

/-- The rules that have been saved and not taken away later. -/
def surviving : List Event → List StoredRule
  | [] => []
  | event :: later =>
    match event.saved? with
    | none => surviving later
    | some rule =>
      if later.any (·.removes rule.id) then surviving later else rule :: surviving later

/-! ## Histories -/

/-- The calls of a history in two parts. -/
theorem history_append (s : Store) (calls later : List Call) :
    s.history (calls ++ later) = s.history calls ++ (s.after calls).history later := by
  induction calls generalizing s with
  | nil => rfl
  | cons call calls ih => exact congrArg (_ :: ·) (ih _)

/-- The store after calls in two parts. -/
theorem after_append (s : Store) (calls later : List Call) :
    s.after (calls ++ later) = (s.after calls).after later := List.foldl_append

/-- A history has an event for every call. -/
theorem length_history (s : Store) (calls : List Call) :
    (s.history calls).length = calls.length := by
  induction calls generalizing s with
  | nil => rfl
  | cons call calls ih => exact congrArg (· + 1) (ih _)

/-- One more event takes rules away, or adds one at the end. -/
theorem surviving_append_singleton (events : List Event) (event : Event) :
    surviving (events ++ [event]) =
      (surviving events).filter (fun rule => !event.removes rule.id) ++ event.saved?.toList := by
  induction events with
  | nil =>
    cases hsaved : event.saved? <;> simp [surviving, hsaved]
  | cons first events ih =>
    rw [List.cons_append, surviving, surviving, ih]
    cases first.saved? with
    | none => rfl
    | some rule =>
      -- The rule stays if neither the events in between nor the new one takes it away.
      dsimp only
      rw [List.any_append, List.any_cons, List.any_nil, Bool.or_false]
      cases events.any (·.removes rule.id) with
      | true => rfl
      | false =>
        cases hremoves : event.removes rule.id <;> simp [hremoves]

/-- The rules that survive are some of those saved, in the same order. -/
theorem surviving_sublist_saves (events : List Event) :
    (surviving events).Sublist (saves events) := by
  induction events with
  | nil => exact .slnil
  | cons event events ih =>
    rw [surviving, saves, List.filterMap_cons]
    cases event.saved? with
    | none => exact ih
    | some rule =>
      dsimp only
      split
      · exact ih.cons rule
      · exact ih.cons_cons rule

/-! ## What a call does -/

/-- Every call saves one rule, takes one rule away, takes all away or leaves the store alone. -/
theorem cases_of_perform (s : Store) (call : Call) :
    (∃ id now source, call = .save id now source ∧
      call.perform s = (.saved ⟨id, source, now⟩, s.reserve.2.insert ⟨s.next, id, source, now⟩)) ∨
    (∃ id, call = .delete id ∧ call.perform s = (.done, s.remove id)) ∨
    (call = .clear ∧ call.perform s = (.done, s.clear)) ∨
    ((call.perform s).2 = s ∧ Event.saved? (call, (call.perform s).1) = none ∧
      ∀ id, Event.removes id (call, (call.perform s).1) = false) := by
  cases call with
  | save id now source =>
    rw [Call.perform, Store.save]
    cases check source with
    | ok _ => exact .inl ⟨id, now, source, rfl, rfl⟩
    | error e => exact .inr (.inr (.inr ⟨rfl, rfl, fun _ => rfl⟩))
  | delete id =>
    rw [Call.perform, Store.delete]
    cases s.get id with
    | ok _ => exact .inr (.inl ⟨id, rfl, rfl⟩)
    | error e => exact .inr (.inr (.inr ⟨rfl, rfl, fun _ => rfl⟩))
  | clear => exact .inr (.inr (.inl ⟨rfl, rfl⟩))
  | compile id =>
    rw [Call.perform]
    cases s.compile id with
    | ok t => exact .inr (.inr (.inr ⟨rfl, rfl, fun _ => rfl⟩))
    | error e => exact .inr (.inr (.inr ⟨rfl, rfl, fun _ => rfl⟩))
  | combine ids =>
    rw [Call.perform]
    cases s.combine ids with
    | ok t => exact .inr (.inr (.inr ⟨rfl, rfl, fun _ => rfl⟩))
    | error e => exact .inr (.inr (.inr ⟨rfl, rfl, fun _ => rfl⟩))
  | _ => exact .inr (.inr (.inr ⟨rfl, rfl, fun _ => rfl⟩))

/-- A call that only reads, or that fails, leaves the store alone. -/
theorem perform_eq_self {s : Store} {call : Call}
    (h : call.isReading = true ∨ ∃ cause, (call.perform s).1 = .failed cause) :
    (call.perform s).2 = s := by
  obtain ⟨id, now, source, rfl, hperform⟩ | ⟨id, rfl, hperform⟩ | ⟨rfl, hperform⟩ | ⟨hself, -⟩ :=
    cases_of_perform s call
  · rw [hperform] at h
    rcases h with h | ⟨cause, h⟩ <;> cases h
  · rw [hperform] at h
    rcases h with h | ⟨cause, h⟩ <;> cases h
  · rw [hperform] at h
    rcases h with h | ⟨cause, h⟩ <;> cases h
  · exact hself

/-! ## The invariant -/

/-- The entries, in some order, carry these rules with ascending numbers below the next one, and so
many numbers have been given out. -/
structure Records (s : Store) (rules : List StoredRule) (given : Nat) : Prop where
  exists_entries : ∃ entries : List Entry, s.entries.Perm entries ∧
    entries.map (·.rule) = rules ∧ entries.Pairwise (fun a b => a.number < b.number) ∧
    ∀ e ∈ entries, e.number < s.next
  next : s.next.toNat = given

/-- A store without rules records none. -/
theorem records_empty : Records .empty [] 0 := ⟨⟨[], .refl _, rfl, .nil, by simp⟩, rfl⟩

/-- An entry under a new id replaces none. -/
theorem entries_insert {s : Store} {entry : Entry}
    (hnew : ∀ e ∈ s.entries, e.rule.id ≠ entry.rule.id) :
    (s.insert entry).entries = entry :: s.entries :=
  congrArg (entry :: ·) (List.filter_eq_self.2 fun e he => decide_eq_true (hnew e he))

namespace Records

variable {s : Store} {rules : List StoredRule} {given : Nat}

/-- A rule with a new id is recorded at the end. -/
theorem save (h : Records s rules given) {rule : StoredRule} (hnew : ∀ r ∈ rules, r.id ≠ rule.id)
    (few : given + 1 < UInt64.size) :
    Records (s.reserve.2.insert ⟨s.next, rule⟩) (rules ++ [rule]) (given + 1) := by
  obtain ⟨entries, hperm, hrules, hsorted, hbelow⟩ := h.exists_entries
  have hnext : (s.next + 1).toNat = given + 1 := by
    rw [UInt64.toNat_add, h.next]
    exact Nat.mod_eq_of_lt few
  have habove : s.next < s.next + 1 := by
    rw [UInt64.lt_iff_toNat_lt, hnext, h.next]
    exact Nat.lt_succ_self _
  have hentries : (s.reserve.2.insert ⟨s.next, rule⟩).entries = ⟨s.next, rule⟩ :: s.entries := by
    refine entries_insert fun e he => hnew e.rule ?_
    rw [← hrules]
    exact List.mem_map_of_mem (hperm.subset he)
  refine ⟨⟨entries ++ [⟨s.next, rule⟩], ?_, ?_, ?_, ?_⟩, hnext⟩
  · rw [hentries]
    exact (hperm.cons _).trans (List.perm_append_singleton _ _).symm
  · rw [List.map_append, hrules, List.map_singleton]
  · refine List.pairwise_append.2 ⟨hsorted, List.pairwise_singleton _ _, ?_⟩
    intro e he e' he'
    rw [List.mem_singleton.1 he']
    exact hbelow e he
  · rw [List.forall_mem_append, List.forall_mem_singleton]
    exact ⟨fun e he => UInt64.lt_trans (hbelow e he) habove, habove⟩

/-- The rules with the other ids stay recorded. -/
theorem remove (h : Records s rules given) (id : String) :
    Records (s.remove id) (rules.filter (·.id ≠ id)) given := by
  obtain ⟨entries, hperm, hrules, hsorted, hbelow⟩ := h.exists_entries
  refine ⟨⟨entries.filter (·.rule.id ≠ id), hperm.filter _, ?_, hsorted.filter _, ?_⟩, h.next⟩
  · rw [← hrules, List.filter_map]
    rfl
  · exact fun e he => hbelow e (List.mem_of_mem_filter he)

/-- No rule stays recorded, but the numbers are not given out again. -/
theorem clear (h : Records s rules given) : Records s.clear [] given :=
  ⟨⟨[], .refl _, rfl, .nil, by simp⟩, h.next⟩

end Records

/-- The rules that have been saved, with one more event. -/
theorem saves_append_singleton (events : List Event) (event : Event) :
    saves (events ++ [event]) = saves events ++ event.saved?.toList := by
  rw [saves, List.filterMap_append]
  cases hsaved : event.saved? <;> simp [saves, hsaved]

/-- Every call keeps the surviving rules recorded, as long as the ids differ and the numbers
last. -/
theorem Records.perform {s : Store} {events : List Event}
    (h : Records s (surviving events) (saves events).length) {call : Call} {event : Event}
    (hevent : event = (call, (call.perform s).1))
    (distinct : ((saves (events ++ [event])).map (·.id)).Nodup)
    (few : (saves (events ++ [event])).length < UInt64.size) :
    Records (call.perform s).2 (surviving (events ++ [event]))
      (saves (events ++ [event])).length := by
  rw [saves_append_singleton] at distinct few ⊢
  rw [surviving_append_singleton]
  obtain ⟨id, now, source, rfl, hperform⟩ | ⟨id, rfl, hperform⟩ | ⟨rfl, hperform⟩ |
    ⟨hself, hsaved, hremoves⟩ := cases_of_perform s call
  · rw [hperform] at hevent ⊢
    subst hevent
    have hkept : ((surviving events).filter fun _ => !false) = surviving events :=
      List.filter_eq_self.2 fun _ _ => rfl
    change Records _ ((surviving events).filter (fun _ => !false) ++ [⟨id, source, now⟩])
      (saves events ++ [_]).length
    change ((saves events ++ [_]).map _).Nodup at distinct
    change (saves events ++ [_]).length < UInt64.size at few
    rw [List.length_append, List.length_singleton] at few ⊢
    rw [hkept]
    refine h.save (fun r hr => ?_) few
    rw [List.map_append, List.nodup_append] at distinct
    exact distinct.2.2 r.id (List.mem_map_of_mem ((surviving_sublist_saves events).subset hr)) id
      (List.mem_singleton_self id)
  · rw [hperform] at hevent ⊢
    subst hevent
    have hrules : ((surviving events).filter fun rule => !decide (id = rule.id)) =
        (surviving events).filter (·.id ≠ id) :=
      List.filter_congr fun rule _ => by rw [← decide_not, decide_eq_decide, ne_comm]
    change Records _ ((surviving events).filter (fun rule => !decide (id = rule.id)) ++ [])
      (saves events ++ []).length
    rw [hrules, List.append_nil, List.append_nil]
    exact h.remove id
  · rw [hperform] at hevent ⊢
    subst hevent
    have hnone : ((surviving events).filter fun _ => !true) = [] :=
      List.filter_eq_nil_iff.2 fun _ _ => Bool.false_ne_true
    change Records _ ((surviving events).filter (fun _ => !true) ++ []) (saves events ++ []).length
    rw [hnone, List.append_nil, List.append_nil]
    exact h.clear
  · rw [← hevent] at hsaved hremoves
    have hkept : ((surviving events).filter fun rule => !event.removes rule.id) =
        surviving events :=
      List.filter_eq_self.2 fun rule _ => by rw [hremoves, Bool.not_false]
    rw [hself, hsaved, hkept, Option.toList_none, List.append_nil, List.append_nil]
    exact h

/-- After any calls the surviving rules are recorded. -/
theorem records_after (calls : List Call)
    (distinct : ((saves (history .empty calls)).map (·.id)).Nodup)
    (few : (saves (history .empty calls)).length < UInt64.size) :
    Records (after .empty calls) (surviving (history .empty calls))
      (saves (history .empty calls)).length := by
  induction calls using List.reverseRecOn with
  | nil => exact records_empty
  | append_singleton calls call ih =>
    rw [history_append] at distinct few ⊢
    rw [after_append]
    -- The calls in front save some of the rules that all of them save.
    have hsublist : (saves (history .empty calls)).Sublist
        (saves (history .empty calls ++ (after .empty calls).history [call])) := by
      rw [saves, saves, List.filterMap_append]
      exact List.sublist_append_left _ _
    exact (ih ((hsublist.map _).nodup distinct)
      (Nat.lt_of_le_of_lt hsublist.length_le few)).perform rfl distinct few

/-! ## What the store answers -/

/-- Sorting by number gives numbers that do not descend. -/
theorem pairwise_mergeSort_number (entries : List Entry) :
    (entries.mergeSort fun a b => a.number ≤ b.number).Pairwise
      fun a b => a.number ≤ b.number := by
  let le (a b : Entry) : Bool := a.number ≤ b.number
  have htrans (a b c : Entry) (hab : le a b) (hbc : le b c) : le a c :=
    decide_eq_true (UInt64.le_trans (of_decide_eq_true hab) (of_decide_eq_true hbc))
  have htotal (a b : Entry) : le a b || le b a := by
    rw [Bool.or_eq_true]
    exact (UInt64.le_total a.number b.number).imp decide_eq_true decide_eq_true
  exact (List.pairwise_mergeSort htrans htotal entries).imp of_decide_eq_true

/-- Sorting by number gives the one order in which the numbers ascend. -/
theorem mergeSort_eq_of_perm {entries sorted : List Entry} (hperm : entries.Perm sorted)
    (hsorted : sorted.Pairwise fun a b => a.number < b.number) :
    (entries.mergeSort fun a b => a.number ≤ b.number) = sorted := by
  have hnodup : (sorted.map (·.number)).Nodup :=
    List.pairwise_map.2 (hsorted.imp fun hlt heq => UInt64.ne_of_lt hlt heq)
  have hmerged := (List.mergeSort_perm entries fun a b => a.number ≤ b.number).trans hperm
  refine hmerged.eq_of_pairwise (fun a b ha hb hle hge => ?_)
    (pairwise_mergeSort_number entries) (hsorted.imp UInt64.le_of_lt)
  exact List.inj_on_of_nodup_map hnodup (hmerged.subset ha) hb (UInt64.le_antisymm hle hge)

/-- What is found by an id has that id. -/
theorem id_of_find? {rules : List StoredRule} {id : String} {rule : StoredRule}
    (h : rules.find? (·.id = id) = some rule) : rule.id = id := by
  have hid := List.find?_some h
  exact of_decide_eq_true hid

/-- Of rules with distinct ids, one is found by its id if and only if it is there. -/
theorem find?_eq_some_iff {rules : List StoredRule} (distinct : (rules.map (·.id)).Nodup)
    {id : String} {rule : StoredRule} :
    rules.find? (·.id = id) = some rule ↔ rule ∈ rules ∧ rule.id = id := by
  constructor
  · exact fun h => ⟨List.mem_of_find?_eq_some h, id_of_find? h⟩
  · rintro ⟨hmem, rfl⟩
    have hsome : (rules.find? (·.id = rule.id)).isSome = true :=
      List.find?_isSome.2 ⟨rule, hmem, decide_eq_true rfl⟩
    obtain ⟨found, hfound⟩ := Option.isSome_iff_exists.1 hsome
    have heq : found = rule := List.inj_on_of_nodup_map distinct
      (List.mem_of_find?_eq_some hfound) hmem (id_of_find? hfound)
    rw [hfound, heq]

/-- Rules with distinct ids are found by their ids in every order. -/
theorem find?_eq_of_perm {rules rules' : List StoredRule} (hperm : rules.Perm rules')
    (distinct : (rules'.map (·.id)).Nodup) (id : String) :
    rules.find? (·.id = id) = rules'.find? (·.id = id) := by
  have distinct' : (rules.map (·.id)).Nodup := (hperm.map _).nodup_iff.2 distinct
  refine Option.ext fun rule => ?_
  rw [find?_eq_some_iff distinct', find?_eq_some_iff distinct, hperm.mem_iff]

/-- The store answers as one that holds these rules, in this order. -/
structure Holds (s : Store) (rules : List StoredRule) : Prop where
  toList : s.toList = rules
  size : s.size = rules.length
  isEmpty : s.isEmpty = rules.isEmpty
  get? : ∀ id, s.get? id = rules.find? (·.id = id)
  contains : ∀ id, s.contains id = true ↔ id ∈ rules.map (·.id)
  delete : ∀ id, (∃ s', s.delete id = .ok s') ↔ id ∈ rules.map (·.id)

/-- A rule is found by an id if and only if the id is that of a rule. -/
theorem isSome_find?_iff (rules : List StoredRule) (id : String) :
    (rules.find? (·.id = id)).isSome = true ↔ id ∈ rules.map (·.id) := by
  rw [List.find?_isSome, List.mem_map]
  simp only [decide_eq_true_eq]

/-- A store that records rules with distinct ids answers as one that holds them. -/
theorem Records.holds {s : Store} {rules : List StoredRule} {given : Nat}
    (h : Records s rules given) (distinct : (rules.map (·.id)).Nodup) : Holds s rules := by
  obtain ⟨entries, hperm, hrules, hsorted, -⟩ := h.exists_entries
  have hperm' : (s.entries.map (·.rule)).Perm rules := hrules ▸ hperm.map _
  have hget (id : String) : s.get? id = rules.find? (·.id = id) := by
    rw [← find?_eq_of_perm hperm' distinct, List.find?_map]
    rfl
  refine ⟨?_, ?_, ?_, hget, ?_, ?_⟩
  · rw [Store.toList, mergeSort_eq_of_perm hperm hsorted, hrules]
  · rw [Store.size, ← hperm'.length_eq, List.length_map]
  · rw [Store.isEmpty, ← hperm'.isEmpty_eq, List.isEmpty_map]
  · intro id
    rw [Store.contains, hget, isSome_find?_iff]
  · intro id
    rw [← isSome_find?_iff, Store.delete, Store.get, hget]
    cases rules.find? (·.id = id) with
    | none => exact ⟨(fun ⟨_, h⟩ => nomatch h), nofun⟩
    | some rule => exact ⟨fun _ => rfl, fun _ => ⟨_, rfl⟩⟩

/-- A rule is saved with the text of the call. -/
theorem eq_of_saved_mem_history {s : Store} {calls : List Call} {id source : String}
    {now : Instant} {rule : StoredRule}
    (h : (.save id now source, .saved rule) ∈ s.history calls) : rule = ⟨id, source, now⟩ := by
  induction calls generalizing s with
  | nil => cases h
  | cons call calls ih =>
    rcases List.mem_cons.1 h with heq | hlater
    · obtain ⟨rfl, hanswer⟩ := Prod.mk.inj heq
      rw [Call.perform, Store.save] at hanswer
      cases hcheck : check source with
      | ok _ =>
        rw [hcheck] at hanswer
        cases hanswer
        rfl
      | error e =>
        rw [hcheck] at hanswer
        cases hanswer
    · exact ih hlater

/-- A store answers after any calls as one that holds the rules that have been saved and not taken
away since, each once, in the order of saving and with their texts; and a call that only reads, or
that fails, makes no difference to later answers. -/
theorem answers_after_calls (calls : List Call)
    (distinct : ((saves (history .empty calls)).map (·.id)).Nodup)
    (few : (saves (history .empty calls)).length < UInt64.size) :
    Holds (after .empty calls) (surviving (history .empty calls)) ∧
      ((surviving (history .empty calls)).map (·.id)).Nodup ∧
      (∀ id now source rule, (.save id now source, .saved rule) ∈ history .empty calls →
        rule.source = source) ∧
      ∀ before call later,
        (call.isReading = true ∨
          ∃ cause, (call.perform (after .empty before)).1 = .failed cause) →
        (history .empty (before ++ call :: later)).drop (before.length + 1) =
          (history .empty (before ++ later)).drop before.length := by
  have hnodup : ((surviving (history .empty calls)).map (·.id)).Nodup :=
    ((surviving_sublist_saves _).map _).nodup distinct
  refine ⟨(records_after calls distinct few).holds hnodup, hnodup, ?_, ?_⟩
  · intro id now source rule h
    rw [eq_of_saved_mem_history h]
  · intro before call later h
    have hself : (call.perform (after .empty before)).2 = after .empty before := perform_eq_self h
    have hlength := length_history .empty before
    rw [history_append, history_append, history, hself, ← hlength, List.drop_left,
      List.drop_append]
    simp

/-- A rule is saved, a text with an open parenthesis is refused, and a second rule is saved behind
the first and deleted. -/
theorem answers_after_calls_delete :
    Holds (after .empty [.save "x" ⟨0, 0⟩ "a<'1'", .save "y" ⟨1, 0⟩ "(a<'1'",
      .save "z" ⟨2, 0⟩ "b='2'", .delete "z", .get "x"]) [⟨"x", "a<'1'", ⟨0, 0⟩⟩] := by
  generalize hcalls : [Call.save "x" ⟨0, 0⟩ "a<'1'", .save "y" ⟨1, 0⟩ "(a<'1'",
    .save "z" ⟨2, 0⟩ "b='2'", .delete "z", .get "x"] = calls
  have hsaves : saves (history .empty calls) =
      [⟨"x", "a<'1'", ⟨0, 0⟩⟩, ⟨"z", "b='2'", ⟨2, 0⟩⟩] := by
    subst hcalls
    decide +kernel
  have hsurviving : surviving (history .empty calls) = [⟨"x", "a<'1'", ⟨0, 0⟩⟩] := by
    subst hcalls
    decide +kernel
  rw [← hsurviving]
  refine (answers_after_calls calls ?_ ?_).1
  · rw [hsaves]
    decide
  · rw [hsaves]
    decide

end Rulebook.Store
