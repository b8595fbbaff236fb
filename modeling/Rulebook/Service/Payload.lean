import Rulebook.Json.Shape
import Rulebook.Rule.Evaluate
import Rulebook.Service.Error
import Rulebook.Service.MediaType

/-!
# The bodies of requests

A request that brings data brings JSON, and says so. `payload` reads it to a record of the shape
that the endpoint wants; `EvaluationRequest.parts` then checks what an evaluation needs.
-/

namespace Rulebook

open Json (Fault Shape)

/-- The greatest size of a body in bytes. -/
def bodyLimit : Nat := 2097152

/-- The reason for which a body is refused. Of a text that is no JSON it says no more: what the
reader of JSON found wrong, and in which line and column, is left out. -/
def Json.Fault.reason : Fault → String
  | .notJson => "Failed to parse the request body as JSON"
  | .misfit [] cause =>
    s!"Failed to deserialize the JSON body into the target type: {cause.message}"
  | .misfit place cause =>
    s!"Failed to deserialize the JSON body into the target type: {Fault.placeText place}: " ++
      cause.message

/-- The record that a request brings. -/
def payload {α β : Type} (shape : Shape α β) (request : Request) : Except ApiError β :=
  if !(request.headers.visible? "content-type").any MediaType.isJson then
    .error (.validation "Expected request with `Content-Type: application/json`")
  else if bodyLimit < request.body.utf8ByteSize then
    .error (.validation "Failed to buffer the request body: length limit exceeded")
  else (shape.ofText request.body.toList).mapError fun fault => .validation fault.reason

/-! ## A rule text -/

/-- The shape of a request with one rule text. -/
def sourceShape : Shape (Option String) String where
  title := "struct RuleStringRequest"
  fields := [⟨"ruleString", (·.isSome), fun _ d => do pure (some (← d.asString))⟩]
  start := none
  finish
    | some source => .ok source
    | none => .error "ruleString"

/-- The rule text that a request brings; it is not empty. -/
def sourcePayload (request : Request) : Except ApiError String := do
  let source ← payload sourceShape request
  if source.isEmpty then throw (.validation "rule_string: ruleString 不能为空")
  pure source

/-! ## Several rule texts -/

/-- The shape of a request with several rule texts. -/
def sourcesShape : Shape (Option (List String)) (List String) where
  title := "struct CombineRulesRequest"
  fields := [⟨"rules", (·.isSome), fun _ d => do pure (some (← d.asStrings))⟩]
  start := none
  finish
    | some sources => .ok sources
    | none => .error "rules"

/-! ## An evaluation -/

/-- A request to evaluate a tree on a record. -/
structure EvaluationRequest where
  tree : Option Json
  record : Option Json
  traced : Bool

namespace EvaluationRequest

/-- The members that have been met; a null is none. -/
structure Parts where
  tree : Option (Option Json)
  record : Option (Option Json)
  traced : Option Bool

/-- The value of a draft inside a body; a null is none. -/
def optional : Json.Draft → Except Fault (Option Json)
  | .null => .ok none
  -- The body itself is one of the levels that may be open.
  | d => (d.asJson (Json.nestingLimit - 1)).map some

/-- The shape of an evaluation request; every member may be left out. -/
def shape : Shape Parts EvaluationRequest where
  title := "struct EvaluateRuleRequest"
  fields := [
    ⟨"ast", (·.tree.isSome), fun p d => do pure { p with tree := some (← optional d) }⟩,
    ⟨"data", (·.record.isSome), fun p d => do pure { p with record := some (← optional d) }⟩,
    ⟨"trace", (·.traced.isSome), fun p d => do pure { p with traced := some (← d.asBool) }⟩]
  start := ⟨none, none, none⟩
  finish p := .ok ⟨p.tree.join, p.record.join, p.traced.getD false⟩

/-- What the type of a value is called. -/
def typeName : Json → String
  | .null => "null"
  | .bool _ => "boolean"
  | .number _ => "number"
  | .string _ => "string"
  | .array _ => "array"
  | .object _ => "object"

/-- The tree and the record of an evaluation request, both of which have to be there. -/
def parts (r : EvaluationRequest) : Except ApiError (Json × Record) :=
  match r.tree, r.record with
  | some tree, some (.object record) => .ok (tree, record)
  | some _, some other =>
    .error (.validation s!"data 必须是 JSON 对象，实际为: {typeName other}")
  | _, _ => .error (.validation "ast 和 data 均为必填项")

end EvaluationRequest

end Rulebook
