import Mathlib.Logic.Function.Basic
import Rulebook.Proofs.History

/-!
# Calls that share a store

Any number of calls may be under way on one store at once. Each goes on in single steps, and the
steps of different calls follow each other in any order (`Shared.run`). A save checks its text,
takes a number and then places its entry; a delete takes away one entry; clearing takes away
entries, and listing looks at entries, one at a time and in any order. These two are done with those
that were there when the call began, at the least: an entry that comes in meanwhile may be met or
missed.

What one step does to the store and to the entry of its call is said once (`Act.effect_of_on?`). A
call that is not interrupted does in its steps what the store does in one
(`Shared.exists_run_of_perform`).
-/

namespace Rulebook.Store

/-- What is asked of a shared store. -/
inductive Demand where
  | save (source : String)
  | delete (id : String)
  | clear
  | list

/-- How far a call on a shared store has got. -/
inductive Progress where
  /-- The call has not begun. -/
  | idle
  /-- The text is to be checked. -/
  | saving (source : String)
  /-- The text may be saved. -/
  | checked (source : String)
  /-- The entry has its number. -/
  | numbered (entry : Entry)
  /-- The entry has been placed. -/
  | placed (entry : Entry)
  /-- What was asked cannot be done. -/
  | refused (cause : RuleError)
  /-- The entry with this id is to be taken away. -/
  | deleting (id : String)
  /-- The entry has been taken away. -/
  | deleted
  /-- The entries with these ids are still to be taken away. -/
  | clearing (due : List String)
  /-- The entries with these ids are still to be looked at, and those on the second list have been
  met. -/
  | listing (due : List String) (met : List Entry)
  deriving DecidableEq

/-- The ids of the entries of a store. -/
def ids (s : Store) : List String := s.entries.map (·.rule.id)

/-- How a call on a store begins. -/
def Demand.begin (s : Store) : Demand → Progress
  | .save source => .saving source
  | .delete id => .deleting id
  | .clear => .clearing s.ids
  | .list => .listing s.ids []

namespace Progress

/-- The answer of a call that has nothing left to do. -/
def answer? : Progress → Option Answer
  | .placed entry => some (.saved entry.rule)
  | .refused cause => some (.failed cause)
  | .deleted => some .done
  | .clearing [] => some .done
  | .listing [] met => some (.listed (toList ⟨met, 0⟩))
  | _ => none

/-- The entry of a save that has its number. -/
def held? : Progress → Option Entry
  | .numbered entry => some entry
  | .placed entry => some entry
  | _ => none

/-- The entry of a save that has been placed. -/
def placed? : Progress → Option Entry
  | .placed entry => some entry
  | _ => none

/-- The entries that a listing has met. -/
def met : Progress → List Entry
  | .listing _ met => met
  | _ => []

/-- Whether the entry with this id may be taken away. -/
def TakesAway (id : String) : Progress → Prop
  | .deleting id' => id' = id
  | .clearing _ => True
  | _ => False

end Progress

/-- A step of a call. -/
inductive Act where
  | start (demand : Demand)
  | check
  | reserve (id : String) (now : Instant)
  | insert
  | remove (id : String)
  | visit (id : String)

namespace Act

/-- The id that a rule is given. -/
def givenId? : Act → Option String
  | .reserve id _ => some id
  | _ => none

/-- The store that a step leaves, and how far its call has got then; a step that is not the next one
of the call cannot be made. -/
def on? (s : Store) : Progress → Act → Option (Store × Progress)
  | .idle, .start demand => some (s, demand.begin s)
  | .saving source, .check =>
    match Store.check source with
    | .ok _ => some (s, .checked source)
    | .error cause => some (s, .refused cause)
  | .checked source, .reserve id now =>
    let (number, s) := s.reserve
    some (s, .numbered ⟨number, ⟨id, source, now⟩⟩)
  | .numbered entry, .insert => some (s.insert entry, .placed entry)
  | .deleting id', .remove id =>
    if id = id' then
      match s.delete id with
      | .ok s => some (s, .deleted)
      | .error cause => some (s, .refused cause)
    else none
  | .clearing due, .remove id => some (s.remove id, .clearing (due.filter (· ≠ id)))
  | .listing due met, .visit id =>
    -- An entry that has been met is not met again.
    if id ∈ met.map (·.rule.id) then none
    else
      some (s, .listing (due.filter (· ≠ id))
        (met ++ (s.entries.find? (·.rule.id = id)).toList))
  | _, _ => none

end Act

/-- A store with the calls on it: how far each has got, and which have returned. -/
structure Shared where
  store : Store
  progress : Nat → Progress
  returned : List Nat

/-- A call makes a step, or returns with its answer. -/
inductive Action where
  | step (call : Nat) (act : Act)
  | finish (call : Nat)

namespace Action

/-- The call that does something. -/
def call : Action → Nat
  | .step c _ => c
  | .finish c => c

/-- The id that a rule is given. -/
def givenId? : Action → Option String
  | .step _ act => act.givenId?
  | .finish _ => none

/-- The ids that rules are given. -/
def givenIds (actions : List Action) : List String := actions.filterMap givenId?

end Action

namespace Shared

/-- A store without rules, on which no call has begun. -/
def initial : Shared := ⟨.empty, fun _ => .idle, []⟩

/-- The state in which the store and the progress of one call are others. -/
def set (s : Shared) (store : Store) (c : Nat) (p : Progress) : Shared :=
  { s with store, progress := Function.update s.progress c p }

@[simp]
theorem store_set (s : Shared) (store : Store) (c : Nat) (p : Progress) :
    (s.set store c p).store = store := rfl

@[simp]
theorem returned_set (s : Shared) (store : Store) (c : Nat) (p : Progress) :
    (s.set store c p).returned = s.returned := rfl

@[simp]
theorem progress_set (s : Shared) (store : Store) (c : Nat) (p : Progress) :
    (s.set store c p).progress c = p := by
  simp [set]

theorem progress_set_of_ne (s : Shared) (store : Store) {c d : Nat} (p : Progress) (h : d ≠ c) :
    (s.set store c p).progress d = s.progress d := by
  simp [set, h]

@[simp]
theorem set_set (s : Shared) (store store' : Store) (c : Nat) (p p' : Progress) :
    (s.set store c p).set store' c p' = s.set store' c p' := by
  simp [set]

/-- The state after an action, if it can be done; a call that has returned does nothing more. -/
def step? (s : Shared) (a : Action) : Option Shared :=
  if a.call ∈ s.returned then none
  else match a with
    | .step c act => (act.on? s.store (s.progress c)).map fun (store, p) => s.set store c p
    | .finish c =>
      (s.progress c).answer?.map fun _ => { s with returned := c :: s.returned }

/-- The state after some actions. -/
def run (s : Shared) (actions : List Action) : Option Shared := actions.foldlM step? s

/-- The answer of a call that has returned. -/
def answer? (s : Shared) (c : Nat) : Option Answer :=
  if c ∈ s.returned then (s.progress c).answer? else none

end Shared

/-! ## What a step does -/

/-- What a step does to a store and to the entry of its call. -/
inductive Act.Effect (s : Store) (p : Progress) : Act → Store → Progress → Prop
  /-- The store stays as it is, and so does the entry; a listing may meet one entry more. -/
  | quiet {act : Act} {q : Progress} (given : act.givenId? = none) (entry : q.held? = p.held?)
      (placed : q.placed? = p.placed?)
      (met : q.met = p.met ∨
        ∃ e ∈ s.entries, e.rule.id ∉ p.met.map (·.rule.id) ∧ q.met = p.met ++ [e]) :
      Effect s p act s q
  /-- The next number is taken for an entry. -/
  | reserves {source id : String} {now : Instant} (checked : p = .checked source) :
      Effect s p (.reserve id now) s.reserve.2 (.numbered ⟨s.next, ⟨id, source, now⟩⟩)
  /-- The entry is placed. -/
  | inserts {entry : Entry} (numbered : p = .numbered entry) :
      Effect s p .insert (s.insert entry) (.placed entry)
  /-- An entry is taken away by a call that may do so. -/
  | removes {id : String} {q : Progress} (may : p.TakesAway id) (entry : q.held? = none)
      (met : q.met = []) : Effect s p (.remove id) (s.remove id) q

/-- A step does one of four things. -/
theorem Act.effect_of_on? {s left : Store} {p q : Progress} {act : Act}
    (h : act.on? s p = some (left, q)) : act.Effect s p left q := by
  revert h
  fun_cases Act.on? s p act with
  | case1 demand =>
    rintro ⟨⟩
    cases demand <;> exact .quiet rfl rfl rfl (.inl rfl)
  | case2 source _ hcheck =>
    rintro ⟨⟩
    exact .quiet rfl rfl rfl (.inl rfl)
  | case3 source cause hcheck =>
    rintro ⟨⟩
    exact .quiet rfl rfl rfl (.inl rfl)
  | case4 source id now number left' hreserve =>
    rintro ⟨⟩
    cases hreserve
    exact .reserves rfl
  | case5 entry =>
    rintro ⟨⟩
    exact .inserts rfl
  | case6 id left' hdelete =>
    rintro ⟨⟩
    -- Deleting an entry that is there takes it away.
    obtain ⟨_, -, rfl⟩ := map_eq_ok.1 hdelete
    exact .removes rfl rfl rfl
  | case7 id cause hdelete =>
    rintro ⟨⟩
    exact .quiet rfl rfl rfl (.inl rfl)
  | case8 id id' hne => rintro ⟨⟩
  | case9 due id =>
    rintro ⟨⟩
    exact .removes trivial rfl rfl
  | case10 due met id hmet => rintro ⟨⟩
  | case11 due met id hmet =>
    rintro ⟨⟩
    refine .quiet rfl rfl rfl ?_
    cases hfind : s.entries.find? (·.rule.id = id) with
    | none => exact .inl (List.append_nil met)
    | some e =>
      have hid : e.rule.id = id := by simpa using List.find?_some hfind
      exact .inr ⟨e, List.mem_of_find?_eq_some hfind, hid ▸ hmet, rfl⟩
  | case12 => rintro ⟨⟩

/-- An action is a step of a call that has not returned, or lets a call return. -/
theorem Shared.cases_of_step? {s s' : Shared} {a : Action} (h : s.step? a = some s') :
    (∃ c act left q, a = .step c act ∧ c ∉ s.returned ∧
      act.Effect s.store (s.progress c) left q ∧ s' = s.set left c q) ∨
    ∃ c, a = .finish c ∧ s' = { s with returned := c :: s.returned } := by
  unfold step? at h
  split at h
  · cases h
  · next hactive =>
    cases a with
    | step c act =>
      obtain ⟨⟨left, q⟩, hon, rfl⟩ := Option.map_eq_some_iff.1 h
      exact .inl ⟨c, act, left, q, rfl, hactive, Act.effect_of_on? hon, rfl⟩
    | finish c =>
      obtain ⟨_, -, rfl⟩ := Option.map_eq_some_iff.1 h
      exact .inr ⟨c, rfl, rfl⟩

/-- The state after actions in two parts. -/
theorem Shared.run_append (s : Shared) (actions later : List Action) :
    s.run (actions ++ later) = (s.run actions).bind (·.run later) := List.foldlM_append

/-! ## Calls that are not interrupted -/

/-- The store after some steps of one call, and how far the call has got then. -/
def Act.onAll? (s : Store) (p : Progress) (acts : List Act) : Option (Store × Progress) :=
  acts.foldlM (fun x act => act.on? x.1 x.2) (s, p)

/-- Steps of one call change the store and the progress of that call only. -/
theorem Shared.run_steps {s : Shared} {c : Nat} (active : c ∉ s.returned) (acts : List Act) :
    s.run (acts.map (.step c)) =
      (Act.onAll? s.store (s.progress c) acts).map fun x => s.set x.1 c x.2 := by
  induction acts generalizing s with
  | nil =>
    have hself : s.set s.store c (s.progress c) = s := by
      rw [Shared.set, Function.update_eq_self]
    exact congrArg some hself.symm
  | cons act acts ih =>
    have hstep : s.step? (.step c act) =
        (act.on? s.store (s.progress c)).map fun x => s.set x.1 c x.2 := if_neg active
    rw [List.map_cons, Shared.run, List.foldlM_cons, hstep, Act.onAll?, List.foldlM_cons]
    cases act.on? s.store (s.progress c) with
    | none => rfl
    | some x =>
      have hactive : c ∉ (s.set x.1 c x.2).returned := active
      have hrest := ih hactive
      simp only [store_set, progress_set, set_set] at hrest
      exact hrest

namespace Act

variable {s : Store}

/-- One step and then the others. -/
theorem onAll?_cons {p q : Progress} {left : Store} {act : Act} (h : act.on? s p = some (left, q))
    (acts : List Act) : onAll? s p (act :: acts) = onAll? left q acts := by
  rw [onAll?, List.foldlM_cons, h]
  rfl

/-- Taking away the entries with some ids leaves the others. -/
theorem onAll?_clearing (due ids : List String) :
    onAll? s (.clearing due) (ids.map .remove) =
      some ({ s with entries := s.entries.filter (·.rule.id ∉ ids) },
        .clearing (due.filter (· ∉ ids))) := by
  induction ids generalizing s due with
  | nil => simp [onAll?]
  | cons id ids ih =>
    rw [List.map_cons, onAll?_cons rfl, ih]
    simp [Store.remove, List.filter_filter, Bool.and_comm]

/-- Looking at the entries with different ids that have not been met meets them in turn. -/
theorem onAll?_listing (due : List String) (met : List Entry) {ids : List String}
    (unmet : ∀ id ∈ ids, id ∉ met.map (·.rule.id)) (distinct : ids.Nodup) :
    onAll? s (.listing due met) (ids.map .visit) =
      some (s, .listing (due.filter (· ∉ ids))
        (met ++ ids.filterMap fun id => s.entries.find? (·.rule.id = id))) := by
  induction ids generalizing due met with
  | nil => simp [onAll?]
  | cons id ids ih =>
    obtain ⟨hid, hids⟩ := List.forall_mem_cons.1 unmet
    obtain ⟨hnew, hdistinct⟩ := List.nodup_cons.1 distinct
    have hstep : on? s (.listing due met) (.visit id) =
        some (s, .listing (due.filter (· ≠ id))
          (met ++ (s.entries.find? (·.rule.id = id)).toList)) := if_neg hid
    have hunmet : ∀ id' ∈ ids,
        id' ∉ (met ++ (s.entries.find? (·.rule.id = id)).toList).map (·.rule.id) := by
      intro id' hid' hmem
      rw [List.map_append, List.mem_append] at hmem
      rcases hmem with hmem | hmem
      · exact hids id' hid' hmem
      · obtain ⟨e, he, rfl⟩ := List.mem_map.1 hmem
        have hfound := List.find?_some (Option.mem_toList.1 he)
        simp only [decide_eq_true_eq] at hfound
        exact hnew (hfound ▸ hid')
    rw [List.map_cons, onAll?_cons hstep, ih _ _ hunmet hdistinct]
    cases hfind : s.entries.find? (·.rule.id = id) <;>
      simp [List.filter_filter, hfind, Bool.and_comm]

end Act

/-- What is asked by a call that changes or lists a store. -/
def Call.demand? : Call → Option Demand
  | .save _ _ source => some (.save source)
  | .delete id => some (.delete id)
  | .clear => some .clear
  | .list => some .list
  | _ => none

/-- Entries with different ids are found by their ids in turn. -/
theorem filterMap_find?_ids {s : Store} (distinct : s.ids.Nodup) :
    (s.ids.filterMap fun id => s.entries.find? (·.rule.id = id)) = s.entries := by
  have hfound : ∀ e ∈ s.entries, s.entries.find? (·.rule.id = e.rule.id) = some e := by
    intro e he
    cases hfind : s.entries.find? (·.rule.id = e.rule.id) with
    | none =>
      have hother := List.find?_eq_none.1 hfind e he
      simp at hother
    | some e' =>
      have hid : e'.rule.id = e.rule.id := by simpa using List.find?_some hfind
      rw [List.inj_on_of_nodup_map distinct (List.mem_of_find?_eq_some hfind) he hid]
  rw [ids, List.filterMap_map]
  exact (List.filterMap_congr hfound).trans List.filterMap_some

/-- A call can go in steps to what the store does in one. -/
theorem Call.exists_onAll?_of_perform {s : Store} (distinct : s.ids.Nodup) {call : Call}
    {demand : Demand} (h : call.demand? = some demand) :
    ∃ acts p, Act.onAll? s .idle (.start demand :: acts) = some ((call.perform s).2, p) ∧
      p.answer? = some (call.perform s).1 := by
  cases call with
  | save id now source =>
    cases h
    cases hcheck : check source with
    | ok _ =>
      have hperform : (Call.save id now source).perform s =
          (.saved ⟨id, source, now⟩, s.reserve.2.insert ⟨s.next, ⟨id, source, now⟩⟩) := by
        rw [Call.perform, Store.save, hcheck]
        rfl
      rw [hperform]
      refine ⟨[.check, .reserve id now, .insert], .placed ⟨s.next, ⟨id, source, now⟩⟩, ?_, rfl⟩
      simp [Act.onAll?, Act.on?, Demand.begin, hcheck, reserve]
    | error cause =>
      have hperform : (Call.save id now source).perform s = (.failed cause, s) := by
        rw [Call.perform, Store.save, hcheck]
        rfl
      rw [hperform]
      refine ⟨[.check], .refused cause, ?_, rfl⟩
      simp [Act.onAll?, Act.on?, Demand.begin, hcheck]
  | delete id =>
    cases h
    rw [Call.perform]
    cases hdelete : s.delete id with
    | ok left =>
      refine ⟨[.remove id], .deleted, ?_, rfl⟩
      simp [Act.onAll?, Act.on?, Demand.begin, hdelete]
    | error cause =>
      refine ⟨[.remove id], .refused cause, ?_, rfl⟩
      simp [Act.onAll?, Act.on?, Demand.begin, hdelete]
  | clear =>
    cases h
    refine ⟨s.ids.map .remove, .clearing [], ?_, rfl⟩
    have hall : s.entries.filter (·.rule.id ∉ s.ids) = [] := by
      refine List.filter_eq_nil_iff.2 fun e he hout => ?_
      exact of_decide_eq_true hout (List.mem_map_of_mem he)
    rw [Act.onAll?_cons rfl, Demand.begin, Act.onAll?_clearing, hall]
    simp [Call.perform, Store.clear]
  | list =>
    cases h
    refine ⟨s.ids.map .visit, .listing [] s.entries, ?_, rfl⟩
    rw [Act.onAll?_cons rfl, Demand.begin, Act.onAll?_listing _ _ (by simp) distinct,
      filterMap_find?_ids distinct]
    simp [Call.perform]
  | _ => cases h

/-- A call that is not interrupted can go in steps to what the store does in one, and is answered
so. -/
theorem Shared.exists_run_of_perform {s : Shared} {c : Nat} (idle : s.progress c = .idle)
    (active : c ∉ s.returned) (distinct : s.store.ids.Nodup) {call : Call} {demand : Demand}
    (h : call.demand? = some demand) :
    ∃ acts s', s.run ((Act.start demand :: acts).map (.step c) ++ [.finish c]) = some s' ∧
      s'.store = (call.perform s.store).2 ∧ s'.answer? c = some (call.perform s.store).1 := by
  obtain ⟨acts, p, hacts, hanswer⟩ := Call.exists_onAll?_of_perform distinct h
  let last := s.set (call.perform s.store).2 c p
  have hfinish : last.step? (.finish c) = some { last with returned := c :: s.returned } := by
    simp [last, step?, Action.call, active, hanswer]
  refine ⟨acts, { last with returned := c :: s.returned }, ?_, rfl, ?_⟩
  · rw [run_append, run_steps active, idle, hacts]
    simp [last, run, hfinish]
  · simp [last, answer?, hanswer]

end Rulebook.Store
