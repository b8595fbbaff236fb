import Rulebook.Proofs.Handling
import Rulebook.Proofs.Routing

/-!
# Requests one after the other

A service answers requests in turn, each in the state that those in front of it have left. What its
callers see of this is a list of exchanges (`ServiceState.exchanges`).

What becomes of a single request at the service (`Exchange.Arises`) is what becomes of it at the
endpoint that it leads to. Where it leads to none, be it that a browser asks beforehand, that no
route has the path or that its route does not answer the method, the answer is empty and nothing but
the request itself is counted.
-/

namespace Rulebook

/-- A request that comes to the service, with what it finds in the world outside. -/
structure Visit where
  around : Surroundings
  request : Request

/-- A request and the response to it. -/
structure Exchange where
  request : Request
  response : Response

/-! ## Reading a response -/

namespace Json

/-- The value under a key of an object. -/
def get? (key : String) : Json → Option Json
  | .object members => member? key members
  | _ => none

/-- The text that a value is. -/
def string? : Json → Option String
  | .string s => some s
  | _ => none

/-- The truth value that a value is. -/
def bool? : Json → Option Bool
  | .bool b => some b
  | _ => none

@[simp]
theorem get?_object (key : String) (members : List (String × Json)) :
    (object members).get? key = member? key members := rfl

@[simp]
theorem get?_array (key : String) (items : List Json) : (array items).get? key = none := rfl

@[simp]
theorem get?_null (key : String) : null.get? key = none := rfl

@[simp]
theorem string?_string (s : String) : (string s).string? = some s := rfl

@[simp]
theorem bool?_bool (b : Bool) : (bool b).bool? = some b := rfl

end Json

namespace Body

/-- The JSON value of a body, null for a body that has none. -/
def value : Body → Json
  | .json v => v
  | _ => .null

@[simp]
theorem value_json (v : Json) : (json v).value = v := rfl

@[simp]
theorem value_plain (text : String) : (plain text).value = .null := rfl

@[simp]
theorem value_empty : empty.value = .null := rfl

end Body

namespace Response

@[simp]
theorem status_json (status : Nat) (value : Json) : (json status value).status = status := rfl

@[simp]
theorem body_json (status : Nat) (value : Json) : (json status value).body = .json value := rfl

@[simp]
theorem body_plain (status : Nat) (text : String) : (plain status text).body = .plain text := rfl

end Response

/-! ## Where a request leads -/

namespace Exchange

/-- What the path of the request is called: the template of its route, or the path itself if no
route has it. -/
def label (x : Exchange) : String := Route.label Endpoint.routes (Target.path x.request.target)

/-- Whether the request has this method and a path of this name. -/
def asks (method label : String) (x : Exchange) : Bool :=
  x.request.method = method && x.label = label

/-- Whether the request has this method and a path of this name, and has been answered with this
status. -/
def answers (method label : String) (status : Nat) (x : Exchange) : Bool :=
  x.asks method label && x.response.status = status

/-- The endpoint to which the request leads, if any. -/
def endpoint? (x : Exchange) : Option Endpoint :=
  match Route.destination Endpoint.routes x.request.method (Target.path x.request.target) with
  | .entry e _ => some e
  | _ => none

/-- A request leads to an endpoint with some values of the parameters, if it leads there. -/
theorem endpoint?_eq_some_iff {x : Exchange} {e : Endpoint} :
    x.endpoint? = some e ↔ ∃ ps,
      Route.destination Endpoint.routes x.request.method (Target.path x.request.target) =
        .entry e ps := by
  unfold endpoint?
  cases Route.destination Endpoint.routes x.request.method (Target.path x.request.target) with
  | entry e' ps => simp
  | wrongMethod r => simp
  | nowhere => simp

/-- A request asks for an endpoint that is not for `GET` if and only if it leads there. -/
theorem asks_eq (x : Exchange) (e : Endpoint) (posted : e.method ≠ "GET") :
    x.asks e.method e.template.text = decide (x.endpoint? = some e) := by
  rw [Bool.eq_iff_iff, decide_eq_true_eq, endpoint?_eq_some_iff,
    Endpoint.exists_destination_eq_entry_iff posted, asks, Bool.and_eq_true, decide_eq_true_eq,
    decide_eq_true_eq, label]

/-- A way in which an exchange can arise at a store: the event that is counted beside the request
itself, and the store that is left. -/
inductive Arises (x : Exchange) (around : Surroundings) (store : Store) :
    Option Event → Store → Prop
  /-- The request leads to no endpoint. -/
  | astray (nowhere : x.endpoint? = none) (empty : x.response.body = .empty) :
      Arises x around store none store
  /-- The request leads to an endpoint, whose response is given, for a `HEAD` without its body. -/
  | led {e : Endpoint} {ps : List String} {given : Response} {event : Option Event} {left : Store}
      (leads : x.endpoint? = some e) (does : e.Does around x.request store ps given event left)
      (status : x.response.status = given.status)
      (body : x.response.body = given.body ∨ e.method = "GET" ∧ x.response.body = .empty) :
      Arises x around store event left

end Exchange

namespace ServiceState

section

variable (origins : Origins)

/-- A request of a visit with the response to it. -/
def exchange (s : ServiceState) (v : Visit) : Exchange :=
  ⟨v.request, (s.answer origins v.around v.request).1⟩

/-- The state that a visit leaves. -/
def next (s : ServiceState) (v : Visit) : ServiceState := (s.answer origins v.around v.request).2

/-- The state that some visits leave. -/
def after (s : ServiceState) (visits : List Visit) : ServiceState := visits.foldl (next origins) s

/-- The requests of some visits, each with the response to it. -/
def exchanges (s : ServiceState) : List Visit → List Exchange
  | [] => []
  | v :: later => s.exchange origins v :: (s.next origins v).exchanges later

/-- Every visit has its exchange. -/
theorem length_exchanges (s : ServiceState) (visits : List Visit) :
    (s.exchanges origins visits).length = visits.length := by
  induction visits generalizing s with
  | nil => rfl
  | cons v visits ih => exact congrArg (· + 1) (ih _)

end

/-! ## How a request is answered -/

/-- Every exchange arises in one of the ways, and its request is counted with the status of the
answer. -/
theorem exists_arises (s : ServiceState) (origins : Origins) (v : Visit) :
    let x := s.exchange origins v
    ∃ event left, x.Arises v.around s.store event left ∧
      s.next origins v =
        ⟨left, (event.elim s.metrics (Metrics.record · s.metrics)).record
          (.request x.request.method x.label x.response.status v.around.answerSeconds)⟩ := by
  intro x
  have hrequest : x.request = v.request := rfl
  cases hleads : x.endpoint? with
  | some e =>
    obtain ⟨ps, hentry⟩ := Exchange.endpoint?_eq_some_iff.1 hleads
    rw [hrequest] at hentry
    obtain ⟨hstatus, hbody, hnext⟩ := s.respond_of_entry origins v.around hentry
    obtain ⟨event, left, hdoes, hleft⟩ := Endpoint.ends_run v.around v.request s e ps
    -- A `HEAD` goes where a `GET` goes, and loses the body on its way back.
    have hshown : x.response.body = (e.run v.around v.request s ps).1.body ∨
        e.method = "GET" ∧ x.response.body = .empty := by
      by_cases hhead : v.request.method = "HEAD"
      · obtain ⟨hmethod, -⟩ := Endpoint.destination_eq_entry_iff.1 hentry
        exact .inr ⟨hmethod.symm.trans (if_pos hhead), hbody.trans (if_pos hhead)⟩
      · exact .inl (hbody.trans (if_neg hhead))
    refine ⟨event, left, .led hleads hdoes hstatus hshown, ?_⟩
    simp only [next, answer, observed, hnext, hleft]
    rfl
  | none =>
    have hnowhere : ¬∃ e ps, Route.destination Endpoint.routes v.request.method
        (Target.path v.request.target) = .entry e ps := by
      rintro ⟨e, hentry⟩
      rw [← hrequest] at hentry
      cases hleads.symm.trans (Exchange.endpoint?_eq_some_iff.2 hentry)
    obtain ⟨hbody, hnext⟩ := s.respond_of_nowhere origins v.around hnowhere
    refine ⟨none, s.store, .astray hleads hbody, ?_⟩
    simp only [next, answer, observed, hnext]
    rfl

/-- What a request is answered with, and the store that is left, depend on the store alone. -/
theorem answer_congr {s s' : ServiceState} (h : s.store = s'.store) (origins : Origins)
    (around : Surroundings) (request : Request) :
    (s.answer origins around request).1 = (s'.answer origins around request).1 ∧
      (s.answer origins around request).2.store = (s'.answer origins around request).2.store := by
  have hrespond : (s.respond origins around request).1 = (s'.respond origins around request).1 ∧
      (s.respond origins around request).2.store =
        (s'.respond origins around request).2.store := by
    by_cases hoptions : request.method = "OPTIONS"
    · rw [respond, respond, if_pos hoptions, if_pos hoptions]
      exact ⟨rfl, h⟩
    · rw [respond, respond, if_neg hoptions, if_neg hoptions, Route.answer, Route.answer]
      cases Route.destination Endpoint.routes request.method (Target.path request.target) with
      | entry e ps =>
        obtain ⟨hresponse, hstore⟩ := Endpoint.run_congr h around request e ps
        dsimp only
        rw [hresponse]
        exact ⟨rfl, hstore⟩
      | wrongMethod r => exact ⟨rfl, h⟩
      | nowhere => exact ⟨rfl, h⟩
  obtain ⟨hresponse, hstore⟩ := hrespond
  exact ⟨congrArg (Response.withHeaders [(requestIdHeader, requestId around request)]) hresponse,
    hstore⟩

/-- What later requests are answered with depends on the store alone. -/
theorem exchanges_congr {s s' : ServiceState} (h : s.store = s'.store) (origins : Origins)
    (visits : List Visit) : s.exchanges origins visits = s'.exchanges origins visits := by
  induction visits generalizing s s' with
  | nil => rfl
  | cons v visits ih =>
    obtain ⟨hresponse, hstore⟩ := answer_congr h origins v.around v.request
    have hlater : (s.next origins v).exchanges origins visits =
        (s'.next origins v).exchanges origins visits := ih hstore
    rw [exchanges, exchanges, exchange, exchange, hresponse, hlater]

end ServiceState

end Rulebook
