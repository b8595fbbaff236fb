import Rulebook.Proofs.Conjunction
import Rulebook.Proofs.History

/-!
# What is found in a store

After any calls a store finds under an id the rule that has last been saved under it, unless a later
call has taken it away (`get?_after`). It does not matter whether the ids differ: a save under an id
that is there replaces the rule, and the history tells so too (`standing?`).

A save compiles its text first, so nothing that does not compile ever gets in
(`exists_save_of_mem_saves`). Compiling by id therefore fails only for an id that is absent, and
combining by ids only for the first absent one of them or because the joined trees get too deep
(`compile_and_combine_after_calls`).
-/

namespace Rulebook.Store

/-- The rule that has last been saved under an id, unless it has been taken away since. -/
def standing? (events : List Event) (id : String) : Option StoredRule :=
  (surviving events).reverse.find? (·.id = id)

/-! ## Finding after a call -/

/-- What is found under an id in a part of a list that is chosen by ids. -/
theorem find?_filter_id {α : Type} (idOf : α → String) (keep : String → Bool) (xs : List α)
    (id : String) :
    (xs.filter fun x => keep (idOf x)).find? (fun x => idOf x = id) =
      if keep id then xs.find? (fun x => idOf x = id) else none := by
  induction xs with
  | nil => simp
  | cons x xs ih =>
    rw [List.filter_cons, List.find?_cons]
    by_cases hid : idOf x = id
    · cases hkeep : keep id <;> simp [hid, hkeep, ih]
    · cases hkeep : keep (idOf x) <;> simp [hid, ih]

/-- A removed rule is not found any more, and the others are found as before. -/
theorem get?_remove (s : Store) (gone id : String) :
    (s.remove gone).get? id = if gone = id then none else s.get? id := by
  have hfilter := find?_filter_id (·.rule.id) (fun other => decide (other ≠ gone)) s.entries id
  unfold get? remove
  rw [hfilter]
  by_cases heq : gone = id
  · simp [heq]
  · simp [heq, Ne.symm heq]

/-- A placed rule is found under its id, and the others are found as before. -/
theorem get?_insert (s : Store) (entry : Entry) (id : String) :
    (s.insert entry).get? id = if entry.rule.id = id then some entry.rule else s.get? id := by
  have hremove := get?_remove s entry.rule.id id
  unfold get? insert at *
  rw [List.find?_cons]
  by_cases heq : entry.rule.id = id
  · simp [heq]
  · simp only [heq, decide_false, if_false] at hremove ⊢
    exact hremove

/-- What stands after one more event: the rule that it saves, or else what it does not take away. -/
theorem standing?_append_singleton (events : List Event) (event : Event) (id : String) :
    standing? (events ++ [event]) id =
      (event.saved?.toList.find? (·.id = id)).or
        (if event.removes id then none else standing? events id) := by
  have hkept := find?_filter_id StoredRule.id (fun id => !event.removes id)
    (surviving events).reverse id
  have hsaved : event.saved?.toList.reverse = event.saved?.toList := by
    cases event.saved? <;> rfl
  rw [standing?, surviving_append_singleton, List.reverse_append, List.find?_append,
    ← List.filter_reverse, hkept, hsaved, ← standing?]
  cases event.removes id <;> rfl

/-- A store finds under an id what stands there after all calls. -/
theorem get?_after (calls : List Call) (id : String) :
    (after .empty calls).get? id = standing? (history .empty calls) id := by
  induction calls using List.reverseRecOn with
  | nil => rfl
  | append_singleton calls call ih =>
    generalize hevent : (call, (call.perform (after .empty calls)).1) = event
    have hhistory : history .empty (calls ++ [call]) = history .empty calls ++ [event] := by
      rw [history_append, ← hevent]
      rfl
    rw [after_append, hhistory, standing?_append_singleton, ← ih]
    change (call.perform (after .empty calls)).2.get? id = _
    obtain ⟨given, now, source, rfl, hperform⟩ | ⟨gone, rfl, hperform⟩ | ⟨rfl, hperform⟩ |
      ⟨hself, hsaved, hremoves⟩ := cases_of_perform (after .empty calls) call
    · rw [hperform] at hevent ⊢
      subst hevent
      rw [get?_insert]
      by_cases hid : given = id
      · simp [Event.saved?, hid]
      · simp [Event.saved?, Event.removes, hid, reserve, get?]
    · rw [hperform] at hevent ⊢
      subst hevent
      rw [get?_remove]
      simp [Event.saved?, Event.removes]
    · rw [hperform] at hevent ⊢
      subst hevent
      rfl
    · rw [hevent] at hsaved hremoves
      rw [hself, hsaved, hremoves]
      rfl

/-! ## What has been saved compiles -/

/-- A text that may be saved compiles. -/
theorem compiles_of_check {source : String} (h : check source = .ok ()) :
    ∃ t, Rulebook.compile source = .ok t := by
  unfold check at h
  split at h
  · cases h
  · cases hcompile : Rulebook.compile source with
    | ok t => exact ⟨t, rfl⟩
    | error e =>
      rw [hcompile] at h
      cases h

/-- Only saving saves, and only a text that compiles. -/
theorem eq_save_of_saved? {s : Store} {call : Call} {rule : StoredRule}
    (h : Event.saved? (call, (call.perform s).1) = some rule) :
    (∃ id now, call = .save id now rule.source ∧ (call.perform s).1 = .saved rule) ∧
      ∃ t, Rulebook.compile rule.source = .ok t := by
  obtain ⟨id, now, source, rfl, hperform⟩ | ⟨gone, rfl, hperform⟩ | ⟨rfl, hperform⟩ |
    ⟨-, hsaved, -⟩ := cases_of_perform s call
  · rw [hperform] at h
    cases h
    refine ⟨⟨id, now, rfl, by rw [hperform]⟩, ?_⟩
    rw [Call.perform, save] at hperform
    cases hcheck : check source with
    | ok _ => exact compiles_of_check hcheck
    | error e =>
      rw [hcheck] at hperform
      cases hperform
  · rw [hperform] at h
    cases h
  · rw [hperform] at h
    cases h
  · rw [hsaved] at h
    cases h

/-- A rule that has been saved is that of a call, and its text compiles. -/
theorem exists_save_of_mem_saves {s : Store} {calls : List Call} {rule : StoredRule}
    (h : rule ∈ saves (s.history calls)) :
    (∃ id now, (Call.save id now rule.source, Answer.saved rule) ∈ s.history calls) ∧
      ∃ t, Rulebook.compile rule.source = .ok t := by
  induction calls generalizing s with
  | nil => cases h
  | cons call calls ih =>
    have hlater (hmem : rule ∈ saves ((call.perform s).2.history calls)) :
        (∃ id now, (Call.save id now rule.source, Answer.saved rule) ∈ s.history (call :: calls)) ∧
          ∃ t, Rulebook.compile rule.source = .ok t := by
      obtain ⟨⟨id, now, hsave⟩, hcompiles⟩ := ih hmem
      exact ⟨⟨id, now, List.mem_cons_of_mem _ hsave⟩, hcompiles⟩
    rw [history, saves, List.filterMap_cons] at h
    cases hsaved : Event.saved? (call, (call.perform s).1) with
    | none =>
      rw [hsaved] at h
      exact hlater h
    | some first =>
      rw [hsaved] at h
      rcases List.mem_cons.1 h with rfl | h
      · obtain ⟨⟨id, now, hcall, hanswer⟩, hcompiles⟩ := eq_save_of_saved? hsaved
        refine ⟨⟨id, now, ?_⟩, hcompiles⟩
        rw [history, hanswer, hcall]
        exact List.mem_cons_self
      · exact hlater h

/-- What stands has been saved. -/
theorem mem_saves_of_standing? {events : List Event} {id : String} {rule : StoredRule}
    (h : standing? events id = some rule) : rule ∈ saves events ∧ rule.id = id := by
  have hmem := List.mem_reverse.1 (List.mem_of_find?_eq_some h)
  have hid := List.find?_some h
  exact ⟨(surviving_sublist_saves events).subset hmem, of_decide_eq_true hid⟩

/-! ## Looking up several ids -/

/-- Compiling by id looks the rule up and compiles its text. -/
theorem compile_eq (s : Store) (id : String) :
    s.compile id = match s.get? id with
      | some rule => (Rulebook.compile rule.source).mapError .notARule
      | none => .error (.ruleNotFound id) := by
  unfold compile get
  cases s.get? id <;> rfl

/-- Ids that are all there have their rules. -/
theorem exists_forall₂_get? {s : Store} {ids : List String}
    (h : ∀ id ∈ ids, s.contains id = true) :
    ∃ rules, List.Forall₂ (fun id rule => s.get? id = some rule) ids rules := by
  induction ids with
  | nil => exact ⟨[], .nil⟩
  | cons id ids ih =>
    obtain ⟨hid, hids⟩ := List.forall_mem_cons.1 h
    obtain ⟨rule, hrule⟩ := Option.isSome_iff_exists.1 hid
    obtain ⟨rules, hrules⟩ := ih hids
    exact ⟨rule :: rules, .cons hrule hrules⟩

/-- Ids that are all there give their rules. -/
theorem mapM_get_eq_ok {s : Store} {ids : List String} {rules : List StoredRule}
    (h : List.Forall₂ (fun id rule => s.get? id = some rule) ids rules) :
    ids.mapM s.get = .ok rules := by
  induction h with
  | nil => rfl
  | @cons id rule ids rules hget _ ih =>
    have hfound : s.get id = .ok rule := by rw [get, hget]
    rw [List.mapM_cons, hfound, ih]
    rfl

/-- The first absent id is missed. -/
theorem mapM_get_eq_error {s : Store} {ids : List String} {id : String}
    (h : ids.find? (fun id => !s.contains id) = some id) :
    ids.mapM s.get = .error (.ruleNotFound id) := by
  induction ids with
  | nil => cases h
  | cons first ids ih =>
    rw [List.find?_cons] at h
    rw [List.mapM_cons]
    cases hget : s.get? first with
    | none =>
      have hmissed : s.get first = .error (.ruleNotFound first) := by rw [get, hget]
      simp only [contains, hget, Option.isSome_none, Bool.not_false, Option.some.injEq] at h
      rw [hmissed, h]
      rfl
    | some rule =>
      have hfound : s.get first = .ok rule := by rw [get, hget]
      simp only [contains, hget, Option.isSome_some, Bool.not_true] at h
      rw [hfound]
      change (ids.mapM s.get >>= _) = _
      rw [ih h]
      rfl

end Rulebook.Store

namespace Rulebook

/-- A text that compiles is refused only because the joined tree gets too deep. -/
theorem Refused.eq_tooDeep {sources : List String} {index : Nat} {cause : SyntaxError}
    (h : Refused sources index cause)
    (compiles : ∀ source ∈ sources, ∃ t, compile source = .ok t) : cause = .tooDeep 100 := by
  cases h with
  | notARule there fails =>
    obtain ⟨t, ht⟩ := compiles _ (List.mem_of_getElem? there)
    cases ht.symm.trans fails
  | tooDeep => rfl

/-- Texts that all compile fail to be combined only because the joined tree gets too deep. -/
theorem exists_eq_combineFailed {sources : List String} {e : RuleError}
    (compiles : ∀ source ∈ sources, ∃ t, compile source = .ok t) (h : combine sources = .error e) :
    ∃ index, e = .combineFailed index (.tooDeep 100) := by
  have hcombines := combines_combine sources
  rw [h] at hcombines
  generalize houtcome : (.error e : Except RuleError (Option Tree)) = outcome at hcombines
  cases hcombines with
  | joined _ _ => cases houtcome
  | @refused index cause here _ =>
    cases houtcome
    exact ⟨index, by rw [here.eq_tooDeep compiles]⟩

namespace Store

/-- After any calls what is found under an id is what has last been saved under it and not been
taken away since. It compiles, by its id as by its text, so that compiling by id fails only for an
absent id. Combining by ids misses the first absent one; if there is none it comes to what
combining the saved texts in the order of the ids comes to, and fails only if the joined tree gets
too deep. -/
theorem compile_and_combine_after_calls (calls : List Call) :
    (∀ id, (after .empty calls).get? id = standing? (history .empty calls) id) ∧
    (∀ id rule, (after .empty calls).get? id = some rule →
      (∃ now, (Call.save id now rule.source, Answer.saved rule) ∈ history .empty calls) ∧
        ∃ t, Rulebook.compile rule.source = .ok t ∧ (after .empty calls).compile id = .ok t) ∧
    (∀ id e, (after .empty calls).compile id = .error e ↔
      (after .empty calls).contains id = false ∧ e = .ruleNotFound id) ∧
    (∀ ids id, ids.find? (fun id => !(after .empty calls).contains id) = some id →
      (after .empty calls).combine ids = .error (.ruleNotFound id)) ∧
    ∀ ids, (∀ id ∈ ids, (after .empty calls).contains id = true) →
      ∃ rules, List.Forall₂ (fun id rule => (after .empty calls).get? id = some rule) ids rules ∧
        (after .empty calls).combine ids = Rulebook.combine (rules.map (·.source)) ∧
        ∀ e, (after .empty calls).combine ids = .error e →
          ∃ index, e = .combineFailed index (.tooDeep 100) := by
  have hget := get?_after calls
  have hstored (id : String) (rule : StoredRule)
      (hrule : (after .empty calls).get? id = some rule) :
      (∃ now, (Call.save id now rule.source, Answer.saved rule) ∈ history .empty calls) ∧
        ∃ t, Rulebook.compile rule.source = .ok t := by
    obtain ⟨hsaves, hid⟩ := mem_saves_of_standing? ((hget id).symm.trans hrule)
    obtain ⟨⟨id', now, hsave⟩, hcompiles⟩ := exists_save_of_mem_saves hsaves
    have hrule' : rule.id = id' := by rw [eq_of_saved_mem_history hsave]
    rw [← hrule', hid] at hsave
    exact ⟨⟨now, hsave⟩, hcompiles⟩
  generalize after .empty calls = s at hget hstored ⊢
  refine ⟨hget, ?_, ?_, ?_, ?_⟩
  · intro id rule hrule
    obtain ⟨hsave, t, ht⟩ := hstored id rule hrule
    refine ⟨hsave, t, ht, ?_⟩
    rw [compile_eq, hrule]
    exact congrArg (·.mapError RuleError.notARule) ht
  · intro id e
    rw [compile_eq, contains]
    cases hrule : s.get? id with
    | none => simp [eq_comm]
    | some rule =>
      obtain ⟨-, t, ht⟩ := hstored id rule hrule
      simp [ht, mapError_ok]
  · intro ids id hfirst
    rw [combine, mapM_get_eq_error hfirst]
    rfl
  · intro ids hids
    obtain ⟨rules, hrules⟩ := exists_forall₂_get? hids
    have hcombine : s.combine ids = Rulebook.combine (rules.map (·.source)) := by
      rw [combine, mapM_get_eq_ok hrules]
      rfl
    refine ⟨rules, hrules, hcombine, fun e he => ?_⟩
    rw [hcombine] at he
    have hcompile := ((List.forall₂_and_left rules ids).1
      (hrules.flip.imp fun rule id hrule => ⟨(hstored id rule hrule).2, hrule⟩)).1
    exact exists_eq_combineFailed (List.forall_mem_map.2 hcompile) he

/-- A rule is replaced by a second one that is saved under its id, a text with an open parenthesis
is refused, and a third rule is deleted again, so that its id is the first absent one. -/
theorem compile_and_combine_after_calls_replaced :
    let s := after .empty [.save "x" ⟨0, 0⟩ "a<'1'", .save "x" ⟨1, 0⟩ "b='2' OR c='3'",
      .save "y" ⟨2, 0⟩ "(a<'1'", .save "z" ⟨3, 0⟩ "d>'4'", .delete "z"]
    (∃ t, Rulebook.compile "b='2' OR c='3'" = .ok t ∧ s.compile "x" = .ok t) ∧
      s.combine ["x", "z", "y"] = .error (.ruleNotFound "z") ∧
      ∃ rules, List.Forall₂ (fun id rule => s.get? id = some rule) ["x", "x"] rules ∧
        s.combine ["x", "x"] = Rulebook.combine (rules.map (·.source)) := by
  intro s
  obtain ⟨-, hcompile, -, hmissed, hcombine⟩ := compile_and_combine_after_calls
    [.save "x" ⟨0, 0⟩ "a<'1'", .save "x" ⟨1, 0⟩ "b='2' OR c='3'",
      .save "y" ⟨2, 0⟩ "(a<'1'", .save "z" ⟨3, 0⟩ "d>'4'", .delete "z"]
  have hget : s.get? "x" = some ⟨"x", "b='2' OR c='3'", ⟨1, 0⟩⟩ := by decide +kernel
  have hfirst : ["x", "z", "y"].find? (fun id => !s.contains id) = some "z" := by decide +kernel
  have hthere : ∀ id ∈ ["x", "x"], s.contains id = true := by decide +kernel
  refine ⟨(hcompile "x" _ hget).2, hmissed _ _ hfirst, ?_⟩
  obtain ⟨rules, hrules, heq, -⟩ := hcombine _ hthere
  exact ⟨rules, hrules, heq⟩

end Store

end Rulebook
