import Rulebook.Proofs.Conjunction
import Rulebook.Service.Endpoint

/-!
# What an endpoint does with a request

An answer tells what it was given for. `Endpoint.Does` lists the ways in which a request can end at
an endpoint, each with the response, the event that is counted and the store that is left, and
`Endpoint.ends_run` says that every request ends in one of them. What is known of an endpoint
follows from this list, without a look at how it reads a body, compiles a text or finds a rule.

The metrics are written only: neither the response nor the store that is left depends on what has
been counted (`Endpoint.run_congr`).
-/

namespace Rulebook

open Json (Shape)

/-! ## How requests are refused -/

/-- An error is answered with a status of errors. -/
theorem ApiError.le_status_response (e : ApiError) : 400 ≤ e.response.status := by
  cases e <;> simp [response, status, Response.json]

/-- A body is refused because the request is not what it has to be. -/
theorem exists_validation_of_payload {α β : Type} {shape : Shape α β} {request : Request}
    {e : ApiError} (h : payload shape request = .error e) : ∃ reason, e = .validation reason := by
  unfold payload at h
  split at h
  · cases h
    exact ⟨_, rfl⟩
  · split at h
    · cases h
      exact ⟨_, rfl⟩
    · cases hread : shape.ofText request.body.toList with
      | ok record =>
        rw [hread] at h
        cases h
      | error fault =>
        rw [hread] at h
        cases h
        exact ⟨_, rfl⟩

/-- A rule text is brought by a body that has one, unless it is empty. -/
theorem sourcePayload_eq (request : Request) :
    sourcePayload request = match payload sourceShape request with
      | .ok source =>
        if source.isEmpty then .error (.validation "rule_string: ruleString 不能为空")
        else .ok source
      | .error e => .error e := by
  unfold sourcePayload
  cases payload sourceShape request with
  | error e => rfl
  | ok source => cases hempty : source.isEmpty <;> simp [bind, Except.bind, hempty] <;> rfl

/-- Whether a request brings a rule text that is blank but not empty. -/
def Request.bringsBlankRule (request : Request) : Bool :=
  match payload sourceShape request with
  | .ok source => !source.isEmpty && (Text.trim source.toList).isEmpty
  | .error _ => false

/-- A request for one rule text is refused because it is not what it has to be, and not because of
blanks. -/
theorem of_sourcePayload_eq_error {request : Request} {e : ApiError}
    (h : sourcePayload request = .error e) :
    (∃ reason, e = .validation reason) ∧ request.bringsBlankRule = false := by
  rw [sourcePayload_eq] at h
  unfold Request.bringsBlankRule
  split at h
  · split at h
    · next hempty =>
      cases h
      exact ⟨⟨_, rfl⟩, by simp [hempty]⟩
    · cases h
  · next hpayload =>
    cases h
    exact ⟨exists_validation_of_payload hpayload, rfl⟩

/-- The rule text that a request brings is not empty, and blank if there is nothing but white
space. -/
theorem bringsBlankRule_of_sourcePayload {request : Request} {source : String}
    (h : sourcePayload request = .ok source) :
    request.bringsBlankRule = (Text.trim source.toList).isEmpty := by
  rw [sourcePayload_eq] at h
  unfold Request.bringsBlankRule
  split at h
  · split at h
    · cases h
    · next hfilled =>
      cases h
      simp [hfilled]
  · cases h

/-- An evaluation is refused because the request or its tree is not what it has to be. -/
theorem Endpoint.of_evaluation_eq_error {request : Request} {e : ApiError}
    (h : evaluation request = .error e) :
    ∃ reason, e = .validation reason ∨ e = .invalidTree reason := by
  unfold evaluation at h
  cases hpayload : payload EvaluationRequest.shape request with
  | error e' =>
    rw [hpayload] at h
    cases h
    obtain ⟨reason, rfl⟩ := exists_validation_of_payload hpayload
    exact ⟨reason, .inl rfl⟩
  | ok asked =>
    rw [hpayload] at h
    simp only [bind, Except.bind] at h
    cases hparts : asked.parts with
    | error e' =>
      rw [hparts] at h
      cases h
      unfold EvaluationRequest.parts at hparts
      split at hparts <;> cases hparts <;> exact ⟨_, .inl rfl⟩
    | ok parts =>
      obtain ⟨tree, record⟩ := parts
      rw [hparts] at h
      cases htree : Tree.ofJson tree with
      | error cause =>
        simp only [htree, Except.mapError] at h
        cases h
        exact ⟨_, .inr rfl⟩
      | ok tree' =>
        simp only [htree, Except.mapError, pure, Except.pure] at h
        cases h

namespace Endpoint

/-! ## The ways in which a request can end -/

/-- A way in which a request can end at an endpoint: the response, the event that is counted and
the store that is left. -/
inductive Does (around : Surroundings) (request : Request) (store : Store) (ps : List String) :
    Endpoint → Response → Option Event → Store → Prop
  /-- The service tells that it is there. -/
  | index : Does around request store ps .index (.plain 200 "Rule Engine API is running!") none
      store
  | health : Does around request store ps .health
      (.json 200 (.object [("service", .string "rule-service"), ("status", .string "ok")]))
      none store
  /-- All rules are listed. -/
  | listed : Does around request store ps .listRules
      (.json 200 (.array (store.toList.map (·.toJson)))) none store
  /-- The id in the path cannot be read. -/
  | unreadable {e : Endpoint} (byId : e = .getRule ∨ e = .deleteRule)
      (id : ps.head?.bind Target.decoded? = none) :
      Does around request store ps e (.plain 400 "Invalid URL: Invalid UTF-8 in `id`")
        none store
  /-- No rule has the id in the path. -/
  | missed {e : Endpoint} {id : String} (byId : e = .getRule ∨ e = .deleteRule)
      (readable : ps.head?.bind Target.decoded? = some id) (absent : store.get? id = none) :
      Does around request store ps e (ApiError.ruleNotFound id).response none store
  /-- The rule with the id in the path is shown. -/
  | found {id : String} {rule : StoredRule}
      (readable : ps.head?.bind Target.decoded? = some id) (there : store.get? id = some rule) :
      Does around request store ps .getRule (.json 200 rule.toJson) none store
  /-- The rule with the id in the path is deleted. -/
  | deleted {id : String} {left : Store}
      (readable : ps.head?.bind Target.decoded? = some id) (there : store.delete id = .ok left) :
      Does around request store ps .deleteRule (.json 200 (.object [("deleted", .string id)]))
        none left
  /-- The request does not bring what the endpoint wants. -/
  | refused {e : Endpoint} {error : ApiError}
      (posted : e = .saveRule ∨ e = .createRule ∨ e = .combineRules ∨ e = .evaluate)
      (reason : ∃ reason, error = .validation reason ∨ error = .invalidTree reason)
      (filled : e = .saveRule → request.bringsBlankRule = false) :
      Does around request store ps e error.response none store
  /-- A rule to be saved is blank. -/
  | blank (brought : request.bringsBlankRule = true) :
      Does around request store ps .saveRule
        (ApiError.validation RuleError.emptyRule.message).response
        (some (.compilation "empty")) store
  /-- A text is not a rule, or rules cannot be combined. -/
  | notARule {e : Endpoint} {message : String}
      (compiles : e = .saveRule ∨ e = .createRule ∨ e = .combineRules)
      (filled : e = .saveRule → request.bringsBlankRule = false) :
      Does around request store ps e (ApiError.ruleText message).response
        (some (.compilation "syntax_error")) store
  /-- A rule is saved. -/
  | saved {source : String} {rule : StoredRule} {left : Store}
      (brought : request.bringsBlankRule = false)
      (saves : store.save around.ruleId around.now source = .ok (rule, left)) :
      Does around request store ps .saveRule (.json 201 rule.toJson)
        (some (.compilation "success")) left
  /-- A tree is made of a rule, or of several. -/
  | compiled {e : Endpoint} (tree : Option Tree) (compiles : e = .createRule ∨ e = .combineRules) :
      Does around request store ps e (.json 200 (treeJson tree)) (some (.compilation "success"))
        store
  /-- A tree is evaluated, with or without a trace. -/
  | evaluated (isMatch traced : Bool) (trace : Json) {seconds : Double}
      (finishes : around.evaluation = .finished seconds) :
      Does around request store ps .evaluate
        (.json 200 (.object
          (("result", .bool isMatch) :: if traced then [("trace", trace)] else [])))
        (some (.evaluation isMatch seconds)) store
  /-- The task that was to evaluate a tree ends without a result. -/
  | failed {reason : String} (fails : around.evaluation = .failed reason) :
      Does around request store ps .evaluate (ApiError.ofFailedTask reason).response none store

/-- A request ends with a response and a state in one of the ways that there are at an endpoint. -/
def Ends (around : Surroundings) (request : Request) (s : ServiceState) (ps : List String)
    (e : Endpoint) (result : Response × ServiceState) : Prop :=
  ∃ event store, Does around request s.store ps e result.1 event store ∧
    result.2 = ⟨store, event.elim s.metrics (Metrics.record · s.metrics)⟩

section

variable {around : Surroundings} {request : Request} {s : ServiceState} {ps : List String}

/-- Showing a rule ends in one of the ways. -/
theorem ends_get : Ends around request s ps .getRule (withId ps s (get s)) := by
  unfold withId
  cases hid : ps.head?.bind Target.decoded? with
  | none => exact ⟨none, s.store, .unreadable (.inl rfl) hid, rfl⟩
  | some id =>
    dsimp only
    unfold get
    cases hget : s.store.get? id with
    | none => exact ⟨none, s.store, .missed (.inl rfl) hid hget, rfl⟩
    | some rule => exact ⟨none, s.store, .found hid hget, rfl⟩

/-- Deleting a rule ends in one of the ways. -/
theorem ends_delete : Ends around request s ps .deleteRule (withId ps s (delete s)) := by
  unfold withId
  cases hid : ps.head?.bind Target.decoded? with
  | none => exact ⟨none, s.store, .unreadable (.inr rfl) hid, rfl⟩
  | some id =>
    dsimp only
    unfold delete
    cases hdelete : s.store.delete id with
    | ok left => exact ⟨none, left, .deleted hid hdelete, rfl⟩
    | error cause =>
      -- Only an absent rule cannot be deleted.
      unfold Store.delete Store.get at hdelete
      cases hget : s.store.get? id with
      | some rule =>
        rw [hget] at hdelete
        cases hdelete
      | none =>
        rw [hget] at hdelete
        cases hdelete
        exact ⟨none, s.store, .missed (.inr rfl) hid hget, rfl⟩

/-- Saving a rule ends in one of the ways. -/
theorem ends_save : Ends around request s ps .saveRule (save around request s) := by
  unfold save
  cases hsource : sourcePayload request with
  | error error =>
    obtain ⟨⟨reason, hreason⟩, hblank⟩ := of_sourcePayload_eq_error hsource
    exact ⟨none, s.store, .refused (.inl rfl) ⟨reason, .inl hreason⟩ fun _ => hblank, rfl⟩
  | ok source =>
    have hblank := bringsBlankRule_of_sourcePayload hsource
    dsimp only
    cases hsave : s.store.save around.ruleId around.now source with
    | ok result =>
      obtain ⟨rule, left⟩ := result
      refine ⟨_, left, .saved ?_ hsave, rfl⟩
      rw [hblank]
      -- A text that has been saved has passed the check for white space.
      by_contra hempty
      rw [Store.save, Store.check, if_pos (by simpa using hempty)] at hsave
      cases hsave
    | error cause =>
      unfold Store.save Store.check at hsave
      rw [map_eq_error] at hsave
      split at hsave
      · next hempty =>
        cases hsave
        exact ⟨_, s.store, .blank (hblank.trans hempty), rfl⟩
      · next hfilled =>
        split at hsave
        · cases hsave
        · cases hsave
          refine ⟨_, s.store, .notARule (.inl rfl) fun _ => ?_, rfl⟩
          rw [hblank]
          exact Bool.eq_false_iff.2 hfilled

/-- Answering with what a compilation comes to ends in one of the ways. -/
theorem ends_answerTree {e : Endpoint} {result : Except RuleError (Option Tree)}
    (compiles : e = .createRule ∨ e = .combineRules)
    (fails : ∀ cause, result = .error cause → (∃ c, cause = .notARule c) ∨
      ∃ index c, cause = .combineFailed index c) :
    Ends around request s ps e (answerTree s result) := by
  have hother : e ≠ .saveRule := by rcases compiles with rfl | rfl <;> simp
  unfold answerTree
  cases result with
  | ok tree => exact ⟨_, s.store, .compiled tree compiles, rfl⟩
  | error cause =>
    rcases fails cause rfl with ⟨c, rfl⟩ | ⟨index, c, rfl⟩
    · exact ⟨_, s.store, .notARule (.inr compiles) fun h => absurd h hother, rfl⟩
    · exact ⟨_, s.store, .notARule (.inr compiles) fun h => absurd h hother, rfl⟩

/-- Compiling a rule ends in one of the ways. -/
theorem ends_create : Ends around request s ps .createRule (create request s) := by
  unfold create
  cases hsource : sourcePayload request with
  | error error =>
    obtain ⟨⟨reason, hreason⟩, -⟩ := of_sourcePayload_eq_error hsource
    exact ⟨none, s.store, .refused (.inr (.inl rfl)) ⟨reason, .inl hreason⟩ nofun, rfl⟩
  | ok source =>
    refine ends_answerTree (.inl rfl) fun cause hcause => .inl ?_
    cases hcompile : compile source with
    | ok tree =>
      rw [hcompile] at hcause
      cases hcause
    | error c =>
      rw [hcompile] at hcause
      cases hcause
      exact ⟨c, rfl⟩

/-- Combining rules ends in one of the ways. -/
theorem ends_combine : Ends around request s ps .combineRules (combine request s) := by
  unfold combine
  cases hsources : payload sourcesShape request with
  | error error =>
    obtain ⟨reason, hreason⟩ := exists_validation_of_payload hsources
    exact ⟨none, s.store, .refused (.inr (.inr (.inl rfl))) ⟨reason, .inl hreason⟩ nofun, rfl⟩
  | ok sources =>
    refine ends_answerTree (.inr rfl) fun cause hcause => .inr ?_
    -- Combining fails in one way only, whatever the texts are.
    have hcombines := combines_combine sources
    rw [hcause] at hcombines
    cases hcombines with
    | refused here first => exact ⟨_, _, rfl⟩

/-- Evaluating a tree ends in one of the ways. -/
theorem ends_evaluateTree : Ends around request s ps .evaluate (evaluateTree around request s) := by
  unfold evaluateTree
  cases hevaluation : evaluation request with
  | error error =>
    exact ⟨none, s.store, .refused (.inr (.inr (.inr rfl))) (of_evaluation_eq_error hevaluation)
      nofun, rfl⟩
  | ok asked =>
    dsimp only
    cases htask : around.evaluation with
    | failed reason => exact ⟨none, s.store, .failed htask, rfl⟩
    | finished seconds => exact ⟨_, s.store, .evaluated _ _ _ htask, rfl⟩

end

/-- Every request that has found its way to an endpoint ends in one of the ways. -/
theorem ends_run (around : Surroundings) (request : Request) (s : ServiceState) (e : Endpoint)
    (ps : List String) : Ends around request s ps e (e.run around request s ps) := by
  cases e with
  | index => exact ⟨none, s.store, .index, rfl⟩
  | health => exact ⟨none, s.store, .health, rfl⟩
  | listRules => exact ⟨none, s.store, .listed, rfl⟩
  | getRule => exact ends_get
  | deleteRule => exact ends_delete
  | saveRule => exact ends_save
  | createRule => exact ends_create
  | combineRules => exact ends_combine
  | evaluate => exact ends_evaluateTree

/-! ## Metrics are only written -/

/-- What an endpoint answers, and the store that it leaves, depend on the store alone. -/
theorem run_congr {s s' : ServiceState} (h : s.store = s'.store) (around : Surroundings)
    (request : Request) (e : Endpoint) (ps : List String) :
    (e.run around request s ps).1 = (e.run around request s' ps).1 ∧
      (e.run around request s ps).2.store = (e.run around request s' ps).2.store := by
  obtain ⟨store, m⟩ := s
  obtain ⟨_, m'⟩ := s'
  cases h
  -- Every endpoint looks at the request and the store only, and passes the metrics on.
  cases e with
  | index | health | listRules => exact ⟨rfl, rfl⟩
  | getRule =>
    simp only [run, withId, get]
    cases ps.head?.bind Target.decoded? with
    | none => exact ⟨rfl, rfl⟩
    | some id =>
      dsimp only
      cases store.get? id <;> exact ⟨rfl, rfl⟩
  | deleteRule =>
    simp only [run, withId, delete]
    cases ps.head?.bind Target.decoded? with
    | none => exact ⟨rfl, rfl⟩
    | some id =>
      dsimp only
      cases store.delete id <;> exact ⟨rfl, rfl⟩
  | saveRule =>
    simp only [run, save]
    cases sourcePayload request with
    | error _ => exact ⟨rfl, rfl⟩
    | ok source =>
      dsimp only
      cases store.save around.ruleId around.now source <;> exact ⟨rfl, rfl⟩
  | createRule =>
    simp only [run, create]
    cases sourcePayload request <;> exact ⟨rfl, rfl⟩
  | combineRules =>
    simp only [run, combine]
    cases payload sourcesShape request <;> exact ⟨rfl, rfl⟩
  | evaluate =>
    simp only [run, evaluateTree]
    cases evaluation request with
    | error _ => exact ⟨rfl, rfl⟩
    | ok _ =>
      dsimp only
      cases around.evaluation <;> exact ⟨rfl, rfl⟩

end Endpoint

end Rulebook
