import Rulebook.Service.Endpoint
import Rulebook.Service.Origins

/-!
# Answering requests

Around every answer stand an id for the request, which the caller may bring, and the count of the
answer by method, route and status. The service itself answers what a browser asks beforehand,
leaves everything else to its endpoints, and adds the headers for browsers.
-/

namespace Rulebook

/-- The header that carries the id of a request. -/
def requestIdHeader : String := "x-request-id"

/-- The id of a request: the one it brings, if that can be shown, or a fresh one. -/
def requestId (around : Surroundings) (request : Request) : String :=
  (request.headers.visible? requestIdHeader).getD around.requestId

/-- Answers a request under an id, and tells what is to be counted. -/
def observed {α β : Type} (routes : List (Route α)) (around : Surroundings) (request : Request)
    (answer : String → Response × β) : Response × β × Event :=
  let id := requestId around request
  let (response, result) := answer id
  (response.withHeaders [(requestIdHeader, id)], result,
    .request request.method (Route.label routes (Target.path request.target)) response.status
      around.answerSeconds)

/-- The headers that keep a browser from guessing types and from framing. -/
def securityHeaders : Headers :=
  [("x-content-type-options", "nosniff"), ("x-frame-options", "DENY")]

namespace ServiceState

/-- A service that has answered nothing. -/
def fresh : ServiceState := ⟨.empty, .empty⟩

/-- The answer to a browser that asks beforehand; on a route it tells the route's methods. -/
def preflight (request : Request) : Response :=
  match Route.find? Endpoint.routes (Target.path request.target) with
  | some (r, _) => Origins.preflight.withHeaders [("allow", r.allow)]
  | none => Origins.preflight

/-- Answers a request without the bookkeeping. -/
def respond (origins : Origins) (around : Surroundings) (request : Request) (s : ServiceState) :
    Response × ServiceState :=
  let (response, s) :=
    if request.method = "OPTIONS" then (preflight request, s)
    else
      let (response, s) :=
        Route.answer Endpoint.routes request s (Endpoint.run around request s)
      (response.withHeaders securityHeaders, s)
  (response.withHeaders (origins.headers request), s)

/-- Answers a request. -/
def answer (origins : Origins) (around : Surroundings) (request : Request) (s : ServiceState) :
    Response × ServiceState :=
  let (response, s, event) :=
    observed Endpoint.routes around request fun _ => s.respond origins around request
  (response, { s with metrics := s.metrics.record event })

end ServiceState

end Rulebook
