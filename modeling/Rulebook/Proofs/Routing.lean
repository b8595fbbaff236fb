import Mathlib.Tactic.SplitIfs
import Rulebook.Proofs.Templates
import Rulebook.Service.Exchange

/-!
# Where requests lead

What stands around an endpoint adds headers to its answer and leaves the status alone, and the body
too unless the method is `HEAD`. A request that leads to no endpoint gets an answer without a body,
and leaves the state as it is.
-/

namespace Rulebook

namespace Endpoint

/-- What a posted request leads to. -/
theorem destination_post :
    Route.destination routes "POST" "/create_rule" = .entry .createRule [] ∧
      Route.destination routes "POST" "/combine_rules" = .entry .combineRules [] ∧
      Route.destination routes "POST" "/evaluate_rule" = .entry .evaluate [] :=
  ⟨rfl, rfl, rfl⟩

end Endpoint

namespace ServiceState

variable (s : ServiceState) (origins : Origins) (around : Surroundings) {request : Request}

/-- A browser that asks beforehand is not led to an endpoint. -/
theorem ne_options_of_destination {e : Endpoint} {ps : List String}
    (leads : Route.destination Endpoint.routes request.method (Target.path request.target) =
      .entry e ps) : request.method ≠ "OPTIONS" := by
  intro h
  obtain ⟨hmethod, -⟩ := Endpoint.destination_eq_entry_iff.1 leads
  rw [h] at hmethod
  revert hmethod
  cases e <;> decide

/-- A request that leads to an endpoint is responded to with what the endpoint gives, for a `HEAD`
without its body. -/
theorem respond_of_entry {e : Endpoint} {ps : List String}
    (leads : Route.destination Endpoint.routes request.method (Target.path request.target) =
      .entry e ps) :
    (s.respond origins around request).1.status = (e.run around request s ps).1.status ∧
      (s.respond origins around request).1.body =
        (if request.method = "HEAD" then .empty else (e.run around request s ps).1.body) ∧
      (s.respond origins around request).2 = (e.run around request s ps).2 := by
  rw [respond, if_neg (ne_options_of_destination leads), Route.answer, leads]
  split_ifs <;> exact ⟨rfl, rfl, rfl⟩

/-- A request that leads to no endpoint is responded to with no body, and leaves the state alone. -/
theorem respond_of_nowhere
    (nowhere : ¬∃ e ps,
      Route.destination Endpoint.routes request.method (Target.path request.target) =
        .entry e ps) :
    (s.respond origins around request).1.body = .empty ∧
      (s.respond origins around request).2 = s := by
  have hpreflight : (preflight request).body = .empty := by
    unfold preflight
    split <;> rfl
  by_cases hoptions : request.method = "OPTIONS"
  · rw [respond, if_pos hoptions]
    exact ⟨hpreflight, rfl⟩
  · rw [respond, if_neg hoptions, Route.answer]
    cases hleads : Route.destination Endpoint.routes request.method
        (Target.path request.target) with
    | entry e ps => exact absurd ⟨e, ps, hleads⟩ nowhere
    | wrongMethod r => exact ⟨rfl, rfl⟩
    | nowhere => exact ⟨rfl, rfl⟩

/-- A request that leads to an endpoint is answered with the status and the body that the endpoint
gives. -/
theorem answer_of_destination {endpoint : Endpoint} {parameters : List String}
    (head : request.method ≠ "HEAD")
    (leads : Route.destination Endpoint.routes request.method (Target.path request.target) =
      .entry endpoint parameters) :
    (s.answer origins around request).1.status =
        (endpoint.run around request s parameters).1.status ∧
      (s.answer origins around request).1.body =
        (endpoint.run around request s parameters).1.body := by
  obtain ⟨hstatus, hbody, -⟩ := s.respond_of_entry origins around leads
  exact ⟨hstatus, hbody.trans (if_neg head)⟩

/-- A posted request that leads to an endpoint is answered with the status and the body that the
endpoint gives. -/
theorem answer_post {path : String} {endpoint : Endpoint} (method : request.method = "POST")
    (hpath : Target.path request.target = path)
    (leads : Route.destination Endpoint.routes "POST" path = .entry endpoint []) :
    (s.answer origins around request).1.status =
        (endpoint.run around request s []).1.status ∧
      (s.answer origins around request).1.body =
        (endpoint.run around request s []).1.body := by
  refine s.answer_of_destination origins around ?_ ?_
  · rw [method]
    decide
  · rw [method, hpath]
    exact leads

end ServiceState

/-- An error is not answered with success. -/
theorem ApiError.status_response_ne (e : ApiError) : e.response.status ≠ 200 := by
  intro h
  cases e <;> cases h

end Rulebook
