import Rulebook.Proofs.Handling
import Rulebook.Proofs.Routing

/-!
# The envelope of errors

Every error of the service is answered with the same envelope, whose code fits the status
(`ApiError.isEnvelope_response`). What an endpoint answers without success is an error of the
service, but for one answer: an id in a path that is not UTF-8 is refused with a plain text, before
the service is asked (`ServiceState.isEnvelope_answer_iff`).
-/

namespace Rulebook

/-- The code of an error fits a status: there are three codes for a request that is not what it has
to be, one for a rule that is not there, one for what went wrong inside, and no other. -/
structure ApiError.Fits (code : String) (status : Nat) : Prop where
  wrong : code = "VALIDATION_ERROR" ∨ code = "INVALID_AST" ∨ code = "RULE_SYNTAX_ERROR" ↔
    status = 400
  absent : code = "RULE_NOT_FOUND" ↔ status = 404
  inside : code = "INTERNAL_ERROR" ↔ status = 500
  only : status = 400 ∨ status = 404 ∨ status = 500

namespace Response

/-- The request has been granted. -/
def Succeeds (r : Response) : Prop := 200 ≤ r.status ∧ r.status < 300

/-- The body is an object with four members: that there was no success, a code that fits the status,
a message and no data. -/
def IsEnvelope (r : Response) : Prop :=
  ∃ code message, r.body = .json (.object [("code", .string code), ("data", .null),
    ("message", .string message), ("success", .bool false)]) ∧ ApiError.Fits code r.status

/-- What is no JSON value is no envelope. -/
theorem not_isEnvelope_of_plain {r : Response} {text : String} (h : r.body = .plain text) :
    ¬r.IsEnvelope := by
  rintro ⟨code, message, hbody, -⟩
  cases h.symm.trans hbody

/-- The answer to a granted request is no error. -/
theorem succeeds_of_status {r : Response} {status : Nat} (h : r.status = status)
    (granted : status = 200 ∨ status = 201) : r.Succeeds := by
  unfold Succeeds
  omega

end Response

/-- The code of an error fits its status. -/
theorem ApiError.fits_code_status (e : ApiError) : Fits e.code e.status := by
  cases e <;> constructor <;> simp [code, status]

/-- Every error is answered with the envelope. -/
theorem ApiError.isEnvelope_response (e : ApiError) : e.response.IsEnvelope :=
  ⟨e.code, e.publicMessage, rfl, e.fits_code_status⟩

namespace Endpoint

/-- The path has the place of an id, but what stands there is not UTF-8. -/
def Misread (e : Endpoint) (ps : List String) : Prop :=
  (e = .getRule ∨ e = .deleteRule) ∧ ps.head?.bind Target.decoded? = none

section

variable {around : Surroundings} {request : Request} {ps : List String} {e : Endpoint}

/-- What is answered without success is an envelope, unless the id cannot be read. -/
theorem isEnvelope_of_does {store left : Store} {given : Response} {event : Option Event}
    (h : Does around request store ps e given event left) (readable : ¬e.Misread ps)
    (fails : ¬given.Succeeds) : given.IsEnvelope := by
  cases h with
  | index | health | listed | found | deleted | compiled | evaluated =>
    exact absurd (Response.succeeds_of_status rfl (.inl rfl)) fails
  | saved => exact absurd (Response.succeeds_of_status rfl (.inr rfl)) fails
  | unreadable byId id => exact absurd ⟨byId, id⟩ readable
  | missed | refused | blank | notARule | failed => exact ApiError.isEnvelope_response _

/-- An id that cannot be read is refused with a plain text. -/
theorem run_of_misread (s : ServiceState) (h : e.Misread ps) :
    (e.run around request s ps).1 = .plain 400 "Invalid URL: Invalid UTF-8 in `id`" := by
  obtain ⟨rfl | rfl, hid⟩ := h
  · rw [run, withId, hid]
  · rw [run, withId, hid]

end

end Endpoint

/-- The answer to a request that leads to an endpoint is a success or an envelope, except if the id
in the path cannot be read; such an id is answered with a plain text. -/
theorem ServiceState.isEnvelope_answer_iff (s : ServiceState) (origins : Origins)
    (around : Surroundings) {request : Request} {e : Endpoint} {ps : List String}
    (head : request.method ≠ "HEAD")
    (leads : Route.destination Endpoint.routes request.method (Target.path request.target) =
      .entry e ps) :
    let r := (s.answer origins around request).1
    ((¬r.Succeeds → r.IsEnvelope) ↔ ¬e.Misread ps) ∧
      (e.Misread ps → r.status = 400 ∧ r.body = .plain "Invalid URL: Invalid UTF-8 in `id`") := by
  intro r
  obtain ⟨hstatus, hbody⟩ := s.answer_of_destination origins around head leads
  have hplain (misread : e.Misread ps) :
      r.status = 400 ∧ r.body = .plain "Invalid URL: Invalid UTF-8 in `id`" := by
    rw [Endpoint.run_of_misread s misread] at hstatus hbody
    exact ⟨hstatus, hbody⟩
  refine ⟨⟨fun henvelope misread => ?_, fun readable fails => ?_⟩, hplain⟩
  · obtain ⟨h400, htext⟩ := hplain misread
    have hfails : ¬r.Succeeds := by
      unfold Response.Succeeds
      omega
    exact Response.not_isEnvelope_of_plain htext (henvelope hfails)
  · obtain ⟨event, left, hdoes, -⟩ := Endpoint.ends_run around request s e ps
    rw [Response.Succeeds, hstatus] at fails
    rw [Response.IsEnvelope, hstatus, hbody]
    exact Endpoint.isEnvelope_of_does hdoes readable fails

/-- An id with a byte that begins no character is answered with a plain text. -/
theorem ServiceState.isEnvelope_answer_iff_invalid_byte :
    let around : Surroundings := ⟨"0", "1", ⟨0, 0⟩, .zero, .zero⟩
    let request : Request := ⟨"GET", "/rules/%FF", [], ""⟩
    let r := (fresh.answer .any around request).1
    ¬(¬r.Succeeds → r.IsEnvelope) ∧ r.status = 400 ∧
      r.body = .plain "Invalid URL: Invalid UTF-8 in `id`" := by
  intro around request r
  have hleads : Route.destination Endpoint.routes request.method (Target.path request.target) =
      .entry .getRule ["%FF"] :=
    Endpoint.destination_eq_entry_iff.2 ⟨rfl, by decide +kernel +revert⟩
  have hmisread : Endpoint.getRule.Misread ["%FF"] := ⟨.inl rfl, by decide +kernel⟩
  obtain ⟨hiff, hplain⟩ := fresh.isEnvelope_answer_iff .any around
    (show request.method ≠ "HEAD" by decide) hleads
  exact ⟨fun henvelope => hiff.1 henvelope hmisread, hplain hmisread⟩

end Rulebook
