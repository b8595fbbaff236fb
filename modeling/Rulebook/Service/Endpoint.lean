import Rulebook.Rule.Store
import Rulebook.Rule.Wire
import Rulebook.Service.Payload
import Rulebook.Service.Route
import Rulebook.Telemetry.Metrics

/-!
# Endpoints

What the service does with a request that has found its way: it changes the store where rules are
saved or deleted, and counts the rules that it compiles and evaluates.
-/

namespace Rulebook

/-- What a service keeps between requests. -/
structure ServiceState where
  store : Store
  metrics : Metrics

/-- How the task of an evaluation ends, which runs apart from the request: with a result after some
seconds, or without one because it breaks off or is called off. -/
inductive EvaluationTask where
  | finished (seconds : Double)
  | failed (reason : String)

/-- A task that takes no time. -/
def EvaluationTask.zero : EvaluationTask := .finished .zero

/-- What a request finds in the world outside: ids that are not yet used, the time, how long the
answer takes, and how the task of an evaluation ends. -/
structure Surroundings where
  requestId : String
  ruleId : String
  now : Instant
  answerSeconds : Double
  evaluation : EvaluationTask

/-- What a request can ask for. -/
inductive Endpoint where
  | index
  | health
  | evaluate
  | listRules
  | saveRule
  | getRule
  | deleteRule
  | createRule
  | combineRules
  deriving DecidableEq, Repr

namespace Endpoint

/-- The routes of the service. -/
def routes : List (Route Endpoint) := [
  ⟨[.literal ""], [("GET", .index)]⟩,
  ⟨[.literal "health"], [("GET", .health)]⟩,
  ⟨[.literal "evaluate_rule"], [("POST", .evaluate)]⟩,
  ⟨[.literal "rules"], [("GET", .listRules), ("POST", .saveRule)]⟩,
  ⟨[.literal "rules", .parameter "id"], [("GET", .getRule), ("DELETE", .deleteRule)]⟩,
  ⟨[.literal "create_rule"], [("POST", .createRule)]⟩,
  ⟨[.literal "combine_rules"], [("POST", .combineRules)]⟩]

/-- What a compilation is counted as. -/
def outcome {α : Type} : Except RuleError α → String
  | .ok _ => "success"
  | .error (.notARule _) => "syntax_error"
  | .error (.combineFailed _ _) => "syntax_error"
  | .error .emptyRule => "empty"
  | .error (.ruleNotFound _) => "error"

/-- The state in which a compilation has been counted. -/
def counted {α : Type} (result : Except RuleError α) (s : ServiceState) : ServiceState :=
  { s with metrics := s.metrics.record (.compilation (outcome result)) }

/-- The JSON value of a tree that has been compiled or combined. -/
def treeJson (tree : Option Tree) : Json :=
  .object [("ast", (tree.map (·.toJson)).getD .null)]

/-- Answers with the result of a compilation, counted. -/
def answerTree (s : ServiceState) (result : Except RuleError (Option Tree)) :
    Response × ServiceState :=
  (match result with
   | .ok tree => .json 200 (treeJson tree)
   | .error e => (ApiError.ofRuleError e).response,
   counted result s)

/-- Saves the rule text of a request. -/
def save (around : Surroundings) (request : Request) (s : ServiceState) :
    Response × ServiceState :=
  match sourcePayload request with
  | .error e => (e.response, s)
  | .ok source =>
    let result := s.store.save around.ruleId around.now source
    match result with
    | .ok (rule, store) => (.json 201 rule.toJson, { counted result s with store })
    | .error e => ((ApiError.ofRuleError e).response, counted result s)

/-- Compiles the rule text of a request. -/
def create (request : Request) (s : ServiceState) : Response × ServiceState :=
  match sourcePayload request with
  | .error e => (e.response, s)
  | .ok source => answerTree s (((compile source).map some).mapError .notARule)

/-- Combines the rule texts of a request. -/
def combine (request : Request) (s : ServiceState) : Response × ServiceState :=
  match payload sourcesShape request with
  | .error e => (e.response, s)
  | .ok sources => answerTree s (Rulebook.combine sources)

/-- What an evaluation request asks to evaluate. -/
def evaluation (request : Request) : Except ApiError (Bool × Tree × Record) := do
  let asked ← payload EvaluationRequest.shape request
  let (tree, record) ← asked.parts
  let tree ← (Tree.ofJson tree).mapError fun e => .invalidTree e.message
  pure (asked.traced, tree, record)

/-- Evaluates the tree of a request on its record. A task without a result is counted nowhere. -/
def evaluateTree (around : Surroundings) (request : Request) (s : ServiceState) :
    Response × ServiceState :=
  match evaluation request with
  | .error e => (e.response, s)
  | .ok (traced, tree, record) =>
    match around.evaluation with
    | .failed reason => ((ApiError.ofFailedTask reason).response, s)
    | .finished seconds =>
      let result := tree.execute traced record
      let lines := if traced then [("trace", Json.array (result.log.lines.map .string))] else []
      (.json 200 (.object (("result", .bool result.isMatch) :: lines)),
        { s with metrics := s.metrics.record (.evaluation result.isMatch seconds) })

/-- Answers a request on the rule whose id stands in the path, if the id can be read. -/
def withId (parameters : List String) (s : ServiceState)
    (answer : String → Response × ServiceState) : Response × ServiceState :=
  match parameters.head?.bind Target.decoded? with
  | some id => answer id
  | none => (.plain 400 "Invalid URL: Invalid UTF-8 in `id`", s)

/-- Answers with a stored rule. -/
def get (s : ServiceState) (id : String) : Response × ServiceState :=
  match s.store.get? id with
  | some rule => (.json 200 rule.toJson, s)
  | none => ((ApiError.ruleNotFound id).response, s)

/-- Deletes a stored rule. -/
def delete (s : ServiceState) (id : String) : Response × ServiceState :=
  match s.store.delete id with
  | .ok store => (.json 200 (.object [("deleted", .string id)]), { s with store })
  | .error e => ((ApiError.ofRuleError e).response, s)

/-- Answers a request at an endpoint. -/
def run (around : Surroundings) (request : Request) (s : ServiceState) (endpoint : Endpoint)
    (parameters : List String) : Response × ServiceState :=
  match endpoint with
  | .index => (.plain 200 "Rule Engine API is running!", s)
  | .health =>
    (.json 200 (.object [("service", .string "rule-service"), ("status", .string "ok")]), s)
  | .evaluate => evaluateTree around request s
  | .listRules => (.json 200 (.array (s.store.toList.map (·.toJson))), s)
  | .saveRule => save around request s
  | .getRule => withId parameters s (get s)
  | .deleteRule => withId parameters s (delete s)
  | .createRule => create request s
  | .combineRules => combine request s

end Endpoint

end Rulebook
