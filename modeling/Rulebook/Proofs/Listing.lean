import Rulebook.Proofs.Lookup
import Rulebook.Proofs.Visits

/-!
# The rules that a service lists

Which rules a service holds can be read off its exchanges: those that it has answered a save with
and has not since answered the deletion of (`Exchange.standing`). Every visit makes at most one call
on the store, and its exchange tells of the call what the history of the store does
(`ServiceState.exists_call`), so that any visits are some calls on the store
(`ServiceState.exists_calls`). What the service lists and shows is then what the store is known to
answer after calls. An answer that tells of no rule saved or deleted leaves the store alone, and
with it every later answer.
-/

namespace Rulebook

namespace Store

/-! ## The entries of a store -/

/-- Every call keeps the rules of the entries those that survive, as long as the ids differ, however
many numbers have been given out. -/
theorem perm_perform {s : Store} {events : List Event}
    (h : (s.entries.map (·.rule)).Perm (surviving events)) {call : Call} {event : Event}
    (hevent : event = (call, (call.perform s).1))
    (distinct : ((saves (events ++ [event])).map (·.id)).Nodup) :
    ((call.perform s).2.entries.map (·.rule)).Perm (surviving (events ++ [event])) := by
  rw [saves_append_singleton, List.map_append] at distinct
  rw [surviving_append_singleton]
  obtain ⟨id, now, source, rfl, hperform⟩ | ⟨id, rfl, hperform⟩ | ⟨rfl, hperform⟩ |
    ⟨hself, hsaved, hremoves⟩ := cases_of_perform s call
  · rw [hperform] at hevent ⊢
    subst hevent
    have hentries : (s.reserve.2.insert ⟨s.next, id, source, now⟩).entries =
        ⟨s.next, id, source, now⟩ :: s.entries := by
      refine entries_insert fun e he => ?_
      have hsaves := (surviving_sublist_saves _).subset (h.subset (List.mem_map_of_mem he))
      exact (List.nodup_append.1 distinct).2.2 _ (List.mem_map_of_mem hsaves) id
        (List.mem_singleton_self id)
    rw [hentries]
    simpa [Event.removes, Event.saved?] using
      (h.cons _).trans (List.perm_append_singleton _ _).symm
  · rw [hperform] at hevent ⊢
    subst hevent
    have hremoved := h.filter (·.id ≠ id)
    rw [List.filter_map] at hremoved
    simpa [Event.removes, Event.saved?, Function.comp_def, remove, eq_comm] using hremoved
  · rw [hperform] at hevent ⊢
    subst hevent
    simp [Event.removes, Event.saved?, clear]
  · rw [← hevent] at hsaved hremoves
    rw [hself, hsaved]
    simpa [hremoves] using h

/-- After any calls that save under distinct ids, the rules of the entries are those that
survive. -/
theorem perm_surviving (calls : List Call)
    (distinct : ((saves (history .empty calls)).map (·.id)).Nodup) :
    ((after .empty calls).entries.map (·.rule)).Perm (surviving (history .empty calls)) := by
  induction calls using List.reverseRecOn with
  | nil => exact .nil
  | append_singleton calls call ih =>
    rw [history_append] at distinct ⊢
    rw [after_append]
    have hfront : ((saves (history .empty calls)).map (·.id)).Nodup := by
      rw [saves, List.filterMap_append, List.map_append] at distinct
      exact (List.nodup_append.1 distinct).1
    exact perm_perform (ih hfront) rfl distinct

/-- After any calls that save under distinct ids, what is found under an id is the surviving rule
with the id. -/
theorem get?_after_eq_some_iff {calls : List Call}
    (distinct : ((saves (history .empty calls)).map (·.id)).Nodup) {id : String}
    {rule : StoredRule} :
    (after .empty calls).get? id = some rule ↔
      rule ∈ surviving (history .empty calls) ∧ rule.id = id := by
  have hnodup : ((surviving (history .empty calls)).map (·.id)).Nodup :=
    ((surviving_sublist_saves _).map _).nodup distinct
  rw [get?_after, standing?, find?_eq_of_perm (List.reverse_perm _) hnodup,
    find?_eq_some_iff hnodup]

end Store

/-! ## What an exchange tells of the rules -/

/-- The id of the JSON value of a rule. -/
def Json.ruleId? (rule : Json) : Option String := (rule.get? "id").bind string?

namespace Exchange

/-- Whether a rule has been saved. -/
def saves (x : Exchange) : Bool := x.answers "POST" "/rules" 201

/-- Whether a rule has been deleted. -/
def deletes (x : Exchange) : Bool := x.answers "DELETE" "/rules/\x7bid\x7d" 200

/-- The rule with which a save has been answered. -/
def saved? (x : Exchange) : Option Json := if x.saves then some x.response.body.value else none

/-- The id that the answer to a deletion names. -/
def deleted? (x : Exchange) : Option String :=
  if x.deletes then (x.response.body.value.get? "deleted").bind Json.string? else none

/-- The rules that have been saved and whose ids have not been named by the answer to a later
deletion, in the order of saving. -/
def standing : List Exchange → List Json
  | [] => []
  | x :: later =>
    match x.saved? with
    | none => standing later
    | some rule =>
      if later.any fun y => y.deleted?.isSome && y.deleted? = rule.ruleId? then standing later
      else rule :: standing later

end Exchange

namespace Endpoint

/-- At an endpoint a rule is saved, as the answer tells, or deleted, as the answer tells, or the
store is left alone, and then the answer tells neither. -/
theorem Does.cases_of_store {around : Surroundings} {request : Request} {store left : Store}
    {ps : List String} {e : Endpoint} {response : Response} {event : Option Event}
    (h : Does around request store ps e response event left) :
    (∃ source rule, e = .saveRule ∧ response = .json 201 rule.toJson ∧
      store.save around.ruleId around.now source = .ok (rule, left)) ∨
    (∃ id, e = .deleteRule ∧ response = .json 200 (.object [("deleted", .string id)]) ∧
      store.delete id = .ok left) ∨
    (left = store ∧ (e = .saveRule → response.status ≠ 201) ∧
      (e = .deleteRule → response.status ≠ 200)) := by
  have herror (error : ApiError) {status : Nat} (h : status < 400) :
      error.response.status ≠ status := Nat.ne_of_gt (Nat.lt_of_lt_of_le h error.le_status_response)
  cases h with
  | saved _ saves => exact .inl ⟨_, _, rfl, rfl, saves⟩
  | deleted _ there => exact .inr (.inl ⟨_, rfl, rfl, there⟩)
  | index | health | listed | found | evaluated => exact .inr (.inr ⟨rfl, nofun, nofun⟩)
  | compiled tree compiles =>
    rcases compiles with rfl | rfl <;> exact .inr (.inr ⟨rfl, nofun, nofun⟩)
  | unreadable => exact .inr (.inr ⟨rfl, fun _ => by decide, fun _ => by decide⟩)
  | missed | refused | blank | notARule | failed =>
    exact .inr (.inr ⟨rfl, fun _ => herror _ (by decide), fun _ => herror _ (by decide)⟩)

end Endpoint

namespace Exchange

/-- A request saves a rule, as the exchange tells, or deletes one, as the exchange tells, or leaves
the store alone, and then the exchange tells neither. -/
theorem Arises.cases_of_store {x : Exchange} {around : Surroundings} {store left : Store}
    {event : Option Event} (h : x.Arises around store event left) :
    (∃ source rule, x.saves = true ∧ x.deletes = false ∧ x.response.body = .json rule.toJson ∧
      store.save around.ruleId around.now source = .ok (rule, left)) ∨
    (∃ id, x.saves = false ∧ x.deletes = true ∧
      x.response.body = .json (.object [("deleted", .string id)]) ∧
      store.delete id = .ok left) ∨
    (left = store ∧ x.saves = false ∧ x.deletes = false) := by
  have hsave : x.asks "POST" "/rules" = decide (x.endpoint? = some .saveRule) :=
    x.asks_eq .saveRule (by decide)
  have hdelete : x.asks "DELETE" "/rules/\x7bid\x7d" = decide (x.endpoint? = some .deleteRule) :=
    x.asks_eq .deleteRule (by decide)
  simp only [saves, deletes, answers, hsave, hdelete]
  cases h with
  | astray nowhere empty => exact .inr (.inr ⟨rfl, by simp [nowhere], by simp [nowhere]⟩)
  | @led e ps given _ _ leads does status body =>
    simp only [leads, Option.some.injEq, status]
    -- Only where a `GET` goes an answer may lose its body, and there no rule changes.
    have hbody (posted : e.method ≠ "GET") : x.response.body = given.body :=
      body.resolve_right fun h => posted h.1
    obtain ⟨source, rule, rfl, rfl, hsaved⟩ | ⟨id, rfl, rfl, hdeleted⟩ |
      ⟨hstore, hsaves, hdeletes⟩ := does.cases_of_store
    · exact .inl ⟨source, rule, rfl, rfl, hbody (by decide), hsaved⟩
    · exact .inr (.inl ⟨id, rfl, rfl, hbody (by decide), hdeleted⟩)
    · refine .inr (.inr ⟨hstore, ?_, ?_⟩)
      · simpa using hsaves
      · simpa using hdeletes

/-! ## Visits as calls on the store -/

/-- An exchange tells of the rules what an event in the history of a store does. -/
structure Tells (x : Exchange) (event : Store.Event) : Prop where
  saved : x.saved? = event.saved?.map (·.toJson)
  removes : ∀ id, decide (x.deleted? = some id) = event.removes id

variable {xs : List Exchange} {events : List Store.Event}

/-- The rules that the exchanges tell to have been saved are those of the history. -/
theorem filterMap_saved? (h : List.Forall₂ Tells xs events) :
    xs.filterMap saved? = (Store.saves events).map (·.toJson) := by
  induction h with
  | nil => rfl
  | @cons x event xs events htells _ ih =>
    rw [Store.saves, List.filterMap_cons, List.filterMap_cons, htells.saved, ih]
    cases event.saved? <;> rfl

/-- An id is named by the answer to a deletion if and only if the history takes it away. -/
theorem any_deleted? (h : List.Forall₂ Tells xs events) (rule : StoredRule) :
    (xs.any fun y => y.deleted?.isSome && y.deleted? = rule.toJson.ruleId?) =
      events.any (·.removes rule.id) := by
  have hid : rule.toJson.ruleId? = some rule.id := rfl
  induction h with
  | nil => rfl
  | @cons x event xs events htells _ ih =>
    rw [List.any_cons, List.any_cons, ih, ← htells.removes, hid]
    cases x.deleted? <;> simp

/-- The rules that stand are those that survive in the history. -/
theorem standing_eq (h : List.Forall₂ Tells xs events) :
    standing xs = (Store.surviving events).map (·.toJson) := by
  induction h with
  | nil => rfl
  | @cons x event xs events htells hlater ih =>
    rw [standing, Store.surviving, htells.saved]
    cases event.saved? with
    | none => exact ih
    | some rule =>
      dsimp only [Option.map_some]
      -- A rule is dropped on both sides if it is taken away later.
      rw [any_deleted? hlater, ih]
      split <;> rfl

end Exchange

namespace ServiceState

variable (origins : Origins)

/-- A visit makes a call on the store, and its exchange tells of it. -/
theorem exists_call (s : ServiceState) (v : Visit) :
    ∃ call : Store.Call,
      (s.exchange origins v).Tells (call, (call.perform s.store).1) ∧
        (s.next origins v).store = (call.perform s.store).2 := by
  obtain ⟨event, left, harises, hnext⟩ := s.exists_arises origins v
  have hstore : (s.next origins v).store = left := by rw [hnext]
  rw [hstore]
  obtain ⟨source, rule, hsaves, hdeletes, hbody, hsave⟩ | ⟨id, hsaves, hdeletes, hbody, hdelete⟩ |
    ⟨hself, hsaves, hdeletes⟩ := harises.cases_of_store
  · have hperform : (Store.Call.save v.around.ruleId v.around.now source).perform s.store =
        (.saved rule, left) := by rw [Store.Call.perform, hsave]
    refine ⟨.save v.around.ruleId v.around.now source, ?_⟩
    rw [hperform]
    refine ⟨⟨?_, fun id => ?_⟩, rfl⟩
    · rw [Exchange.saved?, if_pos hsaves, hbody]
      rfl
    · simp [Exchange.deleted?, hdeletes, Store.Event.removes]
  · have hperform : (Store.Call.delete id).perform s.store = (.done, left) := by
      rw [Store.Call.perform, hdelete]
    refine ⟨.delete id, ?_⟩
    rw [hperform]
    refine ⟨⟨?_, fun id' => ?_⟩, rfl⟩
    · simp [Exchange.saved?, hsaves, Store.Event.saved?]
    · simp [Exchange.deleted?, hdeletes, hbody, Json.member?, Store.Event.removes]
  · -- Any call that only reads stands for a request that leaves the store alone.
    refine ⟨.size, ⟨?_, fun id => ?_⟩, hself⟩
    · simp [Exchange.saved?, hsaves, Store.Event.saved?, Store.Call.perform]
    · simp [Exchange.deleted?, hdeletes, Store.Event.removes]

/-- Visits make calls on the store, and their exchanges tell of them. -/
theorem exists_calls (s : ServiceState) (visits : List Visit) :
    ∃ calls : List Store.Call,
      List.Forall₂ Exchange.Tells (s.exchanges origins visits) (s.store.history calls) ∧
        (s.after origins visits).store = s.store.after calls := by
  induction visits generalizing s with
  | nil => exact ⟨[], .nil, rfl⟩
  | cons v visits ih =>
    obtain ⟨call, htells, hstore⟩ := s.exists_call origins v
    obtain ⟨calls, hlater, hafter⟩ := ih (s.next origins v)
    -- The later visits find the store that the call has left.
    rw [hstore] at hlater hafter
    exact ⟨call :: calls, .cons htells hlater, hafter⟩

/-! ## What the service lists and shows -/

variable {origins} {request : Request}

/-- The list of all rules. -/
theorem answer_listing (s : ServiceState) (around : Surroundings) (method : request.method = "GET")
    (path : Target.path request.target = "/rules") :
    (s.answer origins around request).1.status = 200 ∧
      (s.answer origins around request).1.body =
        .json (.array (s.store.toList.map (·.toJson))) := by
  have hleads : Route.destination Endpoint.routes request.method (Target.path request.target) =
      .entry .listRules [] := by
    rw [method, path]
    rfl
  exact s.answer_of_destination origins around (by rw [method]; decide) hleads

/-- A path with an id leads to the rule with the id. -/
theorem destination_rule {part : String} (filled : part ≠ "") (single : '/' ∉ part.toList) :
    Route.destination Endpoint.routes "GET" ("/rules/" ++ part) = .entry .getRule [part] := by
  rw [Endpoint.destination_eq_entry_iff]
  refine ⟨rfl, ?_⟩
  have hpath : ("/rules/" ++ part).toList = '/' :: ("rules".toList ++ '/' :: part.toList) := by
    rw [String.toList_append]
    rfl
  have hfilled : part.toList.isEmpty = false := by
    rw [List.isEmpty_eq_false_iff, ne_eq, String.toList_eq_nil_iff]
    exact filled
  -- Without another slash the path has two parts, as the template has.
  have hrules : '/' ∉ "rules".toList := by decide
  rw [Template.match?, hpath]
  change Endpoint.getRule.template.matchParts?
    (Text.split '/' ("rules".toList ++ '/' :: part.toList)) = some [part]
  rw [Text.split_append hrules, Text.split_of_notMem single]
  simp [Endpoint.template, Template.matchParts?, hfilled]

/-- A single rule. -/
theorem answer_showing (s : ServiceState) (around : Surroundings) {part : String}
    (method : request.method = "GET") (path : Target.path request.target = "/rules/" ++ part)
    (filled : part ≠ "") (single : '/' ∉ part.toList) :
    (Target.decoded? part = none → (s.answer origins around request).1.status = 400) ∧
      ∀ id, Target.decoded? part = some id →
        (∀ rule, s.store.get? id = some rule →
          (s.answer origins around request).1.status = 200 ∧
            (s.answer origins around request).1.body = .json rule.toJson) ∧
        (s.store.get? id = none → (s.answer origins around request).1.status = 404) := by
  have hleads : Route.destination Endpoint.routes request.method (Target.path request.target) =
      .entry .getRule [part] := by
    rw [method, path, destination_rule filled single]
  obtain ⟨hstatus, hbody⟩ :=
    s.answer_of_destination origins around (by rw [method]; decide) hleads
  rw [hstatus, hbody, Endpoint.run, Endpoint.withId, List.head?_cons, Option.bind_some]
  refine ⟨fun hnone => ?_, fun id hid => ?_⟩
  · rw [hnone]
    rfl
  · rw [hid]
    dsimp only
    refine ⟨fun rule hrule => ?_, fun hrule => ?_⟩
    · rw [Endpoint.get, hrule]
      exact ⟨rfl, rfl⟩
    · rw [Endpoint.get, hrule]
      rfl

/-! ## What makes no difference -/

/-- An answer that tells of no rule saved or deleted makes no difference to later answers. -/
theorem exchanges_next (s : ServiceState) (v : Visit)
    (saves : (s.exchange origins v).saves = false)
    (deletes : (s.exchange origins v).deletes = false) (later : List Visit) :
    (s.next origins v).exchanges origins later = s.exchanges origins later := by
  obtain ⟨event, left, harises, hnext⟩ := s.exists_arises origins v
  refine exchanges_congr ?_ origins later
  rw [hnext]
  obtain ⟨_, _, hsaves, -⟩ | ⟨_, -, hdeletes, -⟩ | ⟨hself, -⟩ := harises.cases_of_store
  · cases saves.symm.trans hsaves
  · cases deletes.symm.trans hdeletes
  · exact hself

end ServiceState

/-- Neither an error nor the answer to a rule that is only compiled, to rules that are combined or
to a tree that is evaluated tells of a rule saved or deleted. -/
theorem Exchange.tells_nothing {x : Exchange}
    (h : 400 ≤ x.response.status ∨ x.request.method = "POST" ∧
      Target.path x.request.target ∈ ["/create_rule", "/combine_rules", "/evaluate_rule"]) :
    x.saves = false ∧ x.deletes = false := by
  unfold saves deletes answers
  rcases h with h | ⟨hmethod, hpath⟩
  · have hcreated : x.response.status ≠ 201 := by omega
    have hdone : x.response.status ≠ 200 := by omega
    simp [hcreated, hdone]
  · have hlabels : ∀ path ∈ ["/create_rule", "/combine_rules", "/evaluate_rule"],
        Route.label Endpoint.routes path ≠ "/rules" := by decide
    have hlabel : x.label ≠ "/rules" := hlabels _ hpath
    simp [asks, hmethod, hlabel]

namespace ServiceState

/-- After any requests that have saved rules under distinct ids, the service lists the rules with
which saves have been answered and whose ids have not been named by the answer to a later deletion,
and in the order of saving as long as there are numbers to tell it. It shows each of them under its
id, and no other. An answer that tells of no rule saved or deleted, such as an error or the answer
to a rule that is only compiled, to rules that are combined or to a tree that is evaluated, makes no
difference to later answers. -/
theorem rules_after (origins : Origins) (visits : List Visit)
    (distinct :
      (((fresh.exchanges origins visits).filterMap Exchange.saved?).map Json.ruleId?).Nodup) :
    let xs := fresh.exchanges origins visits
    let s := fresh.after origins visits
    (∀ around request, request.method = "GET" → Target.path request.target = "/rules" →
      (s.answer origins around request).1.status = 200 ∧
        ∃ rules, (s.answer origins around request).1.body = .json (.array rules) ∧
          rules.Perm (Exchange.standing xs) ∧
          ((xs.filterMap Exchange.saved?).length < UInt64.size →
            rules = Exchange.standing xs)) ∧
    (∀ around request part, request.method = "GET" →
      Target.path request.target = "/rules/" ++ part → part ≠ "" → '/' ∉ part.toList →
      (Target.decoded? part = none → (s.answer origins around request).1.status = 400) ∧
      ∀ id, Target.decoded? part = some id →
        (∀ rule ∈ Exchange.standing xs, rule.ruleId? = some id →
          (s.answer origins around request).1.status = 200 ∧
            (s.answer origins around request).1.body = .json rule) ∧
        ((∀ rule ∈ Exchange.standing xs, rule.ruleId? ≠ some id) →
          (s.answer origins around request).1.status = 404)) ∧
    ∀ visit later,
      let x := s.exchange origins visit
      x.saves = false ∧ x.deletes = false ∨ 400 ≤ x.response.status ∨
          x.request.method = "POST" ∧
            Target.path x.request.target ∈ ["/create_rule", "/combine_rules", "/evaluate_rule"] →
        (s.next origins visit).exchanges origins later = s.exchanges origins later := by
  intro xs s
  obtain ⟨calls, htells, hstore⟩ := fresh.exists_calls origins visits
  have hsaves : xs.filterMap Exchange.saved? =
      (Store.saves (Store.history .empty calls)).map (·.toJson) := Exchange.filterMap_saved? htells
  have hstanding : Exchange.standing xs =
      (Store.surviving (Store.history .empty calls)).map (·.toJson) := Exchange.standing_eq htells
  -- The ids that the answers tell are those under which the calls save.
  have hdistinct : ((Store.saves (Store.history .empty calls)).map (·.id)).Nodup := by
    change ((xs.filterMap Exchange.saved?).map Json.ruleId?).Nodup at distinct
    rw [hsaves, List.map_map] at distinct
    refine List.Nodup.of_map some ?_
    rw [List.map_map]
    exact distinct
  have hstore : s.store = Store.after .empty calls := hstore
  refine ⟨?_, ?_, ?_⟩
  · intro around request method path
    obtain ⟨hstatus, hbody⟩ := s.answer_listing around method path
    refine ⟨hstatus, _, hbody, ?_, fun few => ?_⟩
    · rw [hstanding, hstore, Store.toList]
      refine List.Perm.map _ ?_
      exact ((List.mergeSort_perm _ _).map _).trans (Store.perm_surviving calls hdistinct)
    · rw [hsaves, List.length_map] at few
      have hnodup : ((Store.surviving (Store.history .empty calls)).map (·.id)).Nodup :=
        ((Store.surviving_sublist_saves _).map _).nodup hdistinct
      rw [hstanding, hstore, ((Store.records_after calls hdistinct few).holds hnodup).toList]
  · intro around request part method path filled single
    obtain ⟨hunreadable, hreadable⟩ := s.answer_showing around method path filled single
    refine ⟨hunreadable, fun id hid => ?_⟩
    obtain ⟨hthere, habsent⟩ := hreadable id hid
    rw [hstanding]
    refine ⟨?_, fun hnone => habsent ?_⟩
    · rintro _ hmem hrule
      obtain ⟨rule, hsurvives, rfl⟩ := List.mem_map.1 hmem
      refine hthere rule ?_
      rw [hstore, Store.get?_after_eq_some_iff hdistinct]
      exact ⟨hsurvives, Option.some.inj hrule⟩
    · rw [hstore, Option.eq_none_iff_forall_ne_some]
      intro rule hrule
      obtain ⟨hsurvives, hruleId⟩ := (Store.get?_after_eq_some_iff hdistinct).1 hrule
      exact hnone _ (List.mem_map_of_mem hsurvives) (congrArg some hruleId)
  · intro visit later x htold
    rcases htold with ⟨hsaved, hdeleted⟩ | htold
    · exact s.exchanges_next visit hsaved hdeleted later
    · obtain ⟨hsaved, hdeleted⟩ := Exchange.tells_nothing htold
      exact s.exchanges_next visit hsaved hdeleted later

/-- Two rules are saved, of which the first is deleted again, and a text with an open parenthesis is
refused in between. A rule is shown under every text of its id. -/
theorem rules_after_delete :
    let posted (source : String) : Request := ⟨"POST", "/rules",
      [("content-type", "application/json")], "\x7b\"ruleString\":\"" ++ source ++ "\"\x7d"⟩
    let around (id : String) : Surroundings := ⟨"", id, ⟨0, 0⟩, .zero, .zero⟩
    let visits : List Visit := [⟨around "x", posted "a<'1'"⟩, ⟨around "z", posted "(a<'1'"⟩,
      ⟨around "y", posted "b='2'"⟩, ⟨around "", ⟨"DELETE", "/rules/x", [], ""⟩⟩]
    let shown (target : String) : Nat :=
      ((fresh.after .any visits).answer .any (around "") ⟨"GET", target, [], ""⟩).1.status
    shown "/rules/y" = 200 ∧ shown "/rules/%79" = 200 ∧ shown "/rules/%78" = 404 := by
  intro posted around visits shown
  have hids : ((fresh.exchanges .any visits).filterMap Exchange.saved?).map Json.ruleId? =
      [some "x", some "y"] := by decide +kernel +revert
  have hstanding : (Exchange.standing (fresh.exchanges .any visits)).map Json.ruleId? =
      [some "y"] := by decide +kernel +revert
  obtain ⟨-, hshows, -⟩ := rules_after .any visits (by rw [hids]; decide)
  have hthere (target part : String) (path : Target.path target = "/rules/" ++ part)
      (filled : part ≠ "") (single : '/' ∉ part.toList) (hid : Target.decoded? part = some "y") :
      shown target = 200 := by
    obtain ⟨rule, hrule, hy⟩ := List.mem_map.1 (hstanding ▸ List.mem_singleton_self (some "y"))
    obtain ⟨-, hreadable⟩ := hshows (around "") ⟨"GET", target, [], ""⟩ part rfl path filled single
    exact ((hreadable "y" hid).1 rule hrule hy).1
  refine ⟨?_, ?_, ?_⟩
  · exact hthere _ "y" (by decide +kernel) (by decide) (by decide) (by decide +kernel)
  · exact hthere _ "%79" (by decide +kernel) (by decide) (by decide) (by decide +kernel)
  · have hid : Target.decoded? "%78" = some "x" := by decide +kernel
    obtain ⟨-, hreadable⟩ := hshows (around "") ⟨"GET", "/rules/%78", [], ""⟩ "%78" rfl
      (by decide +kernel) (by decide) (by decide)
    refine (hreadable "x" hid).2 fun rule hrule hx => ?_
    have hmem : some "x" ∈ [some "y"] := by
      rw [← hstanding, ← hx]
      exact List.mem_map_of_mem hrule
    revert hmem
    decide

end ServiceState

end Rulebook
