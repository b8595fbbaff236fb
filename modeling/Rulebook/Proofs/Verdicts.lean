import Mathlib.Data.List.Nodup
import Rulebook.Proofs.Counters
import Rulebook.Proofs.Nesting

/-!
# How an evaluation ends

The body of an evaluation is checked in four steps: its members are read, a tree and a record have
to be there, the record has to be an object, and the tree has to be a rule tree. For an object with
distinct keys the steps come to three ends, told apart by what the body says and not by its order
(`ServiceState.answer_evaluation_iff`): the body lacks something, its tree is no rule tree, or the
tree is evaluated on the record, unless the task that does so fails. A null is no tree and no
record, but it is no answer to whether to trace either.
-/

namespace Rulebook

open Json (Draft)

namespace EvaluationRequest

/-! ## The parts of a request -/

/-- What a field of a request does: it reads a tree, a record or whether to trace, and leaves the
other parts alone. -/
theorem read_cases {f : Json.Field Parts} (hf : f ∈ shape.fields) {p p' : Parts} {d : Draft}
    (h : f.read p d = .ok p') :
    (f.name = "ast" ∧ ∃ x, optional d = .ok x ∧ p' = { p with tree := some x }) ∨
      (f.name = "data" ∧ ∃ x, optional d = .ok x ∧ p' = { p with record := some x }) ∨
        (f.name = "trace" ∧ ∃ b, d.asBool = .ok b ∧ p' = { p with traced := some b }) := by
  simp only [shape, List.mem_cons, List.not_mem_nil, or_false] at hf
  rcases hf with rfl | rfl | rfl
  · obtain ⟨x, hx, hp'⟩ := bind_eq_ok.1 h
    cases hp'
    exact .inl ⟨rfl, x, hx, rfl⟩
  · obtain ⟨x, hx, hp'⟩ := bind_eq_ok.1 h
    cases hp'
    exact .inr (.inl ⟨rfl, x, hx, rfl⟩)
  · obtain ⟨b, hb, hp'⟩ := bind_eq_ok.1 h
    cases hp'
    exact .inr (.inr ⟨rfl, b, hb, rfl⟩)

/-- The tree is gathered from the member `ast`. -/
theorem gathers_tree : shape.Gathers "ast" Parts.tree optional where
  known := by simp [shape]
  isSet := by simp [shape]
  reads f hf hname p d p' h := by
    rcases read_cases hf h with ⟨-, x, hx, rfl⟩ | ⟨hother, -⟩ | ⟨hother, -⟩
    · exact ⟨x, hx, rfl⟩
    all_goals simp [hname] at hother
  keeps f hf hname p d p' h := by
    rcases read_cases hf h with ⟨hthis, -⟩ | ⟨-, x, -, rfl⟩ | ⟨-, b, -, rfl⟩
    · exact absurd hthis hname
    all_goals rfl

/-- The record is gathered from the member `data`. -/
theorem gathers_record : shape.Gathers "data" Parts.record optional where
  known := by simp [shape]
  isSet := by simp [shape]
  reads f hf hname p d p' h := by
    rcases read_cases hf h with ⟨hother, -⟩ | ⟨-, x, hx, rfl⟩ | ⟨hother, -⟩
    · simp [hname] at hother
    · exact ⟨x, hx, rfl⟩
    · simp [hname] at hother
  keeps f hf hname p d p' h := by
    rcases read_cases hf h with ⟨-, x, -, rfl⟩ | ⟨hthis, -⟩ | ⟨-, b, -, rfl⟩
    · rfl
    · exact absurd hthis hname
    · rfl

/-- Whether to trace is gathered from the member `trace`. -/
theorem gathers_traced : shape.Gathers "trace" Parts.traced Draft.asBool where
  known := by simp [shape]
  isSet := by simp [shape]
  reads f hf hname p d p' h := by
    rcases read_cases hf h with ⟨hother, -⟩ | ⟨hother, -⟩ | ⟨-, b, hb, rfl⟩
    · simp [hname] at hother
    · simp [hname] at hother
    · exact ⟨b, hb, rfl⟩
  keeps f hf hname p d p' h := by
    rcases read_cases hf h with ⟨-, x, -, rfl⟩ | ⟨-, x, -, rfl⟩ | ⟨hthis, -⟩
    · rfl
    · rfl
    · exact absurd hthis hname

/-- No field of a request sets another one. -/
theorem apart : shape.Apart := by
  intro f hf g hg hne p d p' h
  simp only [shape, List.mem_cons, List.not_mem_nil, or_false] at hg
  rcases read_cases hf h with ⟨hname, x, -, rfl⟩ | ⟨hname, x, -, rfl⟩ | ⟨hname, b, -, rfl⟩ <;>
    rcases hg with rfl | rfl | rfl <;> first | rfl | exact absurd hname hne

/-! ## What a body says -/

/-- A member of a body has a value: some draft behind its name has it, inside the one level that the
body itself takes. -/
def HasValue (members : List (Option String × Draft)) (name : String) (v : Json) : Prop :=
  ∃ d, (some name, d) ∈ members ∧ d.toJson? (Json.nestingLimit - 1) = some v

/-- What a body can lack for an evaluation. -/
inductive Lacks (members : List (Option String × Draft)) : Prop
  /-- It does not say whether to trace, but something else. -/
  | trace {d : Draft} (there : (some "trace", d) ∈ members) (other : ∀ b, d ≠ .bool b)
  /-- There is no tree, or null. -/
  | noTree (absent : ∀ v, HasValue members "ast" v → v = .null)
  /-- There is no record, or null. -/
  | noRecord (absent : ∀ v, HasValue members "data" v → v = .null)
  /-- The record is no object. -/
  | notObject {v : Json} (there : HasValue members "data" v) (other : ∀ record, v ≠ .object record)

/-- A draft that stands for a null is one. -/
theorem eq_null_of_toJson? {d : Draft} {room : Nat} (h : d.toJson? room = some .null) :
    d = .null := by
  cases d with
  | null => rfl
  | bool b => cases h
  | number n => cases n <;> cases h
  | string s => cases s <;> cases h
  | broken => cases h
  | array items closed =>
    rw [Draft.toJson?] at h
    split at h
    · cases h
    · obtain ⟨vs, -, heq⟩ := Option.map_eq_some_iff.1 h
      cases heq
  | object members closed =>
    rw [Draft.toJson?] at h
    split at h
    · cases h
    · obtain ⟨ms, -, heq⟩ := Option.map_eq_some_iff.1 h
      cases heq

/-- A value is read to itself, but a null to none. -/
theorem optional_of_toJson? {d : Draft} {v : Json}
    (h : d.toJson? (Json.nestingLimit - 1) = some v) :
    ∃ x, optional d = .ok x ∧ ∀ w, x = some w ↔ w = v ∧ w ≠ .null := by
  by_cases hnull : v = .null
  · subst hnull
    obtain rfl := eq_null_of_toJson? h
    exact ⟨none, rfl, by simp⟩
  · have hread : d.asJson (Json.nestingLimit - 1) = .ok v := by rw [Draft.asJson, h]
    have hoptional : optional d = .ok (some v) := by
      cases d with
      | null => exact absurd (Option.some.inj h).symm hnull
      | _ =>
        rw [optional, hread]
        · rfl
        · simp
    refine ⟨some v, hoptional, fun w => ?_⟩
    constructor
    · rintro ⟨⟩
      exact ⟨rfl, hnull⟩
    · rintro ⟨rfl, -⟩
      rfl

/-- A part that is a tree or a record is the value of its member, unless that is null. -/
theorem join_eq_some_iff {members : List (Option String × Draft)} {name : String}
    {part : Parts → Option (Option Json)} {p : Parts} (gathers : shape.Gathers name part optional)
    (start : part shape.start = none) (takes : shape.takeMembers shape.start members = .ok p)
    (values : ∀ d, (some name, d) ∈ members →
      ∃ v, d.toJson? (Json.nestingLimit - 1) = some v) (v : Json) :
    (part p).join = some v ↔ HasValue members name v ∧ v ≠ .null := by
  obtain ⟨-, hmember, habsent⟩ := gathers.takeMembers takes
  -- What is known of the part if the member is there.
  have hpart {d : Draft} (hd : (some name, d) ∈ members) {w : Json}
      (hw : d.toJson? (Json.nestingLimit - 1) = some w) (v : Json) :
      (part p).join = some v ↔ v = w ∧ v ≠ .null := by
    obtain ⟨x, hread, hpart⟩ := hmember d hd
    obtain ⟨x', hread', hx'⟩ := optional_of_toJson? hw
    obtain rfl : x = x' := Except.ok.inj (hread.symm.trans hread')
    rw [hpart, Option.join_some]
    exact hx' v
  constructor
  · intro hv
    by_cases hthere : ∃ d, (some name, d) ∈ members
    · obtain ⟨d, hd⟩ := hthere
      obtain ⟨w, hw⟩ := values d hd
      obtain ⟨rfl, hnull⟩ := (hpart hd hw v).1 hv
      exact ⟨⟨d, hd, hw⟩, hnull⟩
    · rw [habsent fun d hd => hthere ⟨d, hd⟩, start] at hv
      cases hv
  · rintro ⟨⟨d, hd, hw⟩, hnull⟩
    exact (hpart hd hw v).2 ⟨rfl, hnull⟩

end EvaluationRequest

/-- A request that posts an object for an evaluation: a text of JSON with distinct keys, which fits
the limits that texts have in the service. Its keys and the values for a tree and a record can be
kept, and the values nest as deep as texts may. -/
structure PostsObject (request : Request) (members : List (Option String × Draft)) : Prop where
  method : request.method = "POST"
  path : Target.path request.target = "/evaluate_rule"
  mediaType : (request.headers.visible? "content-type").any MediaType.isJson = true
  size : request.body.utf8ByteSize ≤ bodyLimit
  body : Draft.readText request.body.toList = .complete (.object members true)
  distinct : (members.map (·.1)).Nodup
  named : ∀ m ∈ members, m.1 ≠ none
  values : ∀ d, (some "ast", d) ∈ members ∨ (some "data", d) ∈ members →
    ∃ v, d.toJson? (Json.nestingLimit - 1) = some v

namespace PostsObject

open EvaluationRequest

variable {request : Request} {members : List (Option String × Draft)}

/-- A member of a body has one value. -/
theorem hasValue_unique (posts : PostsObject request members) {name : String} {v w : Json}
    (hv : HasValue members name v) (hw : HasValue members name w) : v = w := by
  obtain ⟨d, hd, hv⟩ := hv
  obtain ⟨e, he, hw⟩ := hw
  have hsame : (some name, d) = (some name, e) :=
    List.inj_on_of_nodup_map posts.distinct hd he rfl
  obtain rfl : d = e := (Prod.mk.inj hsame).2
  rw [hv] at hw
  exact Option.some.inj hw

/-- The body is read to what its members are taken in as. -/
theorem payload_eq_ok_iff (posts : PostsObject request members) {asked : EvaluationRequest} :
    payload shape request = .ok asked ↔ ∃ p, shape.takeMembers shape.start members = .ok p ∧
      asked = ⟨p.tree.join, p.record.join, p.traced.getD false⟩ := by
  have hsize : ¬bodyLimit < request.body.utf8ByteSize := Nat.not_lt.2 posts.size
  rw [payload, posts.mediaType, if_neg (by simp), if_neg hsize, mapError_eq_ok, Json.Shape.ofText,
    posts.body]
  change shape.ofDraft (.object members true) = .ok asked ↔ _
  rw [Json.Shape.ofDraft, bind_eq_ok]
  refine exists_congr fun p => and_congr_right fun _ => ?_
  constructor
  · intro h
    exact (Except.ok.inj h).symm
  · rintro rfl
    rfl

/-- A body that says whether to trace, or nothing of it, is read to the values of its members. -/
theorem exists_payload_eq (posts : PostsObject request members)
    (boolean : ∀ d, (some "trace", d) ∈ members → ∃ b, d = .bool b) :
    ∃ asked, payload shape request = .ok asked ∧
      (∀ v, asked.tree = some v ↔ HasValue members "ast" v ∧ v ≠ .null) ∧
        (∀ v, asked.record = some v ↔ HasValue members "data" v ∧ v ≠ .null) ∧
          (asked.traced = true ↔ (some "trace", .bool true) ∈ members) := by
  have hwhole := (Draft.whole_of_readText posts.body).members members true rfl
  have hreads : ∀ f ∈ shape.fields, ∀ d, (some f.name, d) ∈ members →
      ∀ p, ∃ p', f.read p d = .ok p' := by
    intro f hf d hd p
    simp only [shape, List.mem_cons, List.not_mem_nil, or_false] at hf
    rcases hf with rfl | rfl | rfl
    · obtain ⟨v, hv⟩ := posts.values d (.inl hd)
      obtain ⟨x, hx, -⟩ := optional_of_toJson? hv
      exact ⟨{ p with tree := some x }, bind_eq_ok.2 ⟨x, hx, rfl⟩⟩
    · obtain ⟨v, hv⟩ := posts.values d (.inr hd)
      obtain ⟨x, hx, -⟩ := optional_of_toJson? hv
      exact ⟨{ p with record := some x }, bind_eq_ok.2 ⟨x, hx, rfl⟩⟩
    · obtain ⟨b, rfl⟩ := boolean d hd
      exact ⟨{ p with traced := some b }, rfl⟩
  have hunset : ∀ f ∈ shape.fields, some f.name ∈ members.map (·.1) →
      f.isSet shape.start = false := by
    simp [shape]
  obtain ⟨p, htakes⟩ :=
    Json.Shape.exists_takeMembers apart posts.named posts.distinct hwhole hunset hreads
  refine ⟨_, posts.payload_eq_ok_iff.2 ⟨p, htakes, rfl⟩, ?_, ?_, ?_⟩
  · exact join_eq_some_iff gathers_tree rfl htakes fun d hd => posts.values d (.inl hd)
  · exact join_eq_some_iff gathers_record rfl htakes fun d hd => posts.values d (.inr hd)
  · obtain ⟨-, hmember, habsent⟩ := gathers_traced.takeMembers htakes
    dsimp only
    constructor
    · intro htraced
      by_cases hthere : ∃ d, (some "trace", d) ∈ members
      · obtain ⟨d, hd⟩ := hthere
        obtain ⟨b, rfl⟩ := boolean d hd
        obtain ⟨_, ⟨⟩, hpart⟩ := hmember _ hd
        rw [hpart, Option.getD_some] at htraced
        rwa [← htraced]
      · rw [habsent fun d hd => hthere ⟨d, hd⟩] at htraced
        cases htraced
    · intro hd
      obtain ⟨_, ⟨⟩, hpart⟩ := hmember _ hd
      rw [hpart, Option.getD_some]

/-- A body that says something else in the place of whether to trace is not read. -/
theorem exists_payload_eq_error (posts : PostsObject request members) {d : Draft}
    (there : (some "trace", d) ∈ members) (other : ∀ b, d ≠ .bool b) :
    ∃ reason, payload shape request = .error (.validation reason) := by
  cases hpayload : payload shape request with
  | error e =>
    obtain ⟨reason, rfl⟩ := exists_validation_of_payload hpayload
    exact ⟨reason, rfl⟩
  | ok asked =>
    obtain ⟨p, htakes, -⟩ := posts.payload_eq_ok_iff.1 hpayload
    obtain ⟨-, hmember, -⟩ := gathers_traced.takeMembers htakes
    obtain ⟨b, hb, -⟩ := hmember d there
    unfold Draft.asBool at hb
    split at hb
    · next b' => exact absurd rfl (other b')
    · cases hb

/-- The parts of what is asked are checked before the tree is read. -/
theorem evaluation_eq_of_parts {asked : EvaluationRequest}
    (hpayload : payload shape request = .ok asked) :
    Endpoint.evaluation request = asked.parts.bind fun (ast, record) =>
      ((Tree.ofJson ast).mapError fun e => ApiError.invalidTree e.message).map fun tree =>
        (asked.traced, tree, record) := by
  unfold Endpoint.evaluation
  rw [hpayload]
  simp only [bind, Except.bind]
  cases asked.parts with
  | error e => rfl
  | ok parts =>
    obtain ⟨ast, record⟩ := parts
    dsimp only
    cases Tree.ofJson ast <;> rfl

/-- A request is granted its parts if there are a tree and an object, and otherwise it is not what
it has to be. -/
theorem parts_cases (asked : EvaluationRequest) :
    (∃ ast record, asked.tree = some ast ∧ asked.record = some (.object record) ∧
        asked.parts = .ok (ast, record)) ∨
      ((asked.tree = none ∨ ∀ record, asked.record ≠ some (.object record)) ∧
        ∃ reason, asked.parts = .error (.validation reason)) := by
  unfold EvaluationRequest.parts
  split
  · next ast record hast hrecord => exact .inl ⟨ast, record, hast, hrecord, rfl⟩
  · next data hother _ hdata =>
    refine .inr ⟨.inr fun record heq => ?_, _, rfl⟩
    exact hother record (Option.some.inj (hdata.symm.trans heq))
  · next hneither =>
    refine .inr ⟨?_, _, rfl⟩
    cases hast : asked.tree with
    | none => exact .inl rfl
    | some ast =>
      refine .inr fun record hrecord => ?_
      exact hneither ast _ hast hrecord

/-- A body that says whether to trace, or nothing of it, lacks something if and only if no tree or
no object is read from it. -/
theorem lacks_iff (posts : PostsObject request members)
    (boolean : ∀ d, (some "trace", d) ∈ members → ∃ b, d = .bool b) {asked : EvaluationRequest}
    (tree : ∀ v, asked.tree = some v ↔ HasValue members "ast" v ∧ v ≠ .null)
    (record : ∀ v, asked.record = some v ↔ HasValue members "data" v ∧ v ≠ .null) :
    Lacks members ↔ asked.tree = none ∨ ∀ record, asked.record ≠ some (.object record) := by
  constructor
  · intro hlacks
    cases hlacks with
    | trace there other =>
      obtain ⟨b, rfl⟩ := boolean _ there
      exact absurd rfl (other b)
    | noTree absent =>
      refine .inl (Option.eq_none_iff_forall_ne_some.2 fun ast hast => ?_)
      obtain ⟨hvalue, hnull⟩ := (tree ast).1 hast
      exact hnull (absent ast hvalue)
    | noRecord absent =>
      refine .inr fun members' hrecord => ?_
      obtain ⟨hvalue, hnull⟩ := (record _).1 hrecord
      exact hnull (absent _ hvalue)
    | notObject there other =>
      refine .inr fun members' hrecord => ?_
      obtain ⟨hvalue, -⟩ := (record _).1 hrecord
      exact other members' (posts.hasValue_unique there hvalue)
  · rintro (hnone | hother)
    · refine .noTree fun v hv => ?_
      by_contra hnull
      have hsome := (tree v).2 ⟨hv, hnull⟩
      rw [hnone] at hsome
      cases hsome
    · by_cases hvalue : ∃ v, HasValue members "data" v ∧ v ≠ .null
      · obtain ⟨v, hv, hnull⟩ := hvalue
        refine .notObject hv ?_
        rintro members' rfl
        exact hother members' ((record _).2 ⟨hv, hnull⟩)
      · exact .noRecord (by simpa using hvalue)

/-- What is asked of an evaluation: something is lacking, and the request is not valid; or there are
a tree and a record, and the tree is read. -/
theorem evaluation_cases (posts : PostsObject request members) :
    (Lacks members ∧ ∃ reason, Endpoint.evaluation request = .error (.validation reason)) ∨
      (¬Lacks members ∧ ∃ ast record traced, HasValue members "ast" ast ∧
        HasValue members "data" (.object record) ∧
          (traced = true ↔ (some "trace", .bool true) ∈ members) ∧
            Endpoint.evaluation request =
              ((Tree.ofJson ast).mapError fun e => ApiError.invalidTree e.message).map fun tree =>
                (traced, tree, record)) := by
  by_cases hboolean : ∀ d, (some "trace", d) ∈ members → ∃ b, d = .bool b
  · obtain ⟨asked, hpayload, htree, hrecord, htraced⟩ := posts.exists_payload_eq hboolean
    have hlacks := posts.lacks_iff hboolean htree hrecord
    rw [hlacks, evaluation_eq_of_parts hpayload]
    rcases parts_cases asked with ⟨ast, record, hast, hdata, hparts⟩ | ⟨hmissing, reason, hparts⟩
    · have hnothing : ¬(asked.tree = none ∨ ∀ record, asked.record ≠ some (.object record)) := by
        simp [hast, hdata]
      rw [hparts]
      exact .inr ⟨hnothing, ast, record, asked.traced, ((htree ast).1 hast).1,
        ((hrecord _).1 hdata).1, htraced, rfl⟩
    · rw [hparts]
      exact .inl ⟨hmissing, reason, rfl⟩
  · obtain ⟨d, hd, hother⟩ : ∃ d, (some "trace", d) ∈ members ∧ ∀ b, d ≠ .bool b := by
      simpa using hboolean
    obtain ⟨reason, hpayload⟩ := posts.exists_payload_eq_error hd hother
    refine .inl ⟨.trace hd hother, reason, ?_⟩
    unfold Endpoint.evaluation
    rw [hpayload]
    rfl

end PostsObject

/-! ## The answer -/

/-- The answer to an object that is posted for an evaluation. It tells that the request is not valid
if the body lacks something, otherwise that the tree is not valid if it is no rule tree, and
otherwise, if the task of the evaluation ends with a result, the verdict of the tree on the record,
with the trace exactly if it was asked for. The service fails only where that task fails. -/
theorem ServiceState.answer_evaluation_iff {request : Request}
    {members : List (Option String × Draft)} (posts : PostsObject request members)
    (s : ServiceState) (origins : Origins) (around : Surroundings) :
    let answer := (s.answer origins around request).1
    (answer.status = 400 ∧ answer.code? = some "VALIDATION_ERROR" ↔
        EvaluationRequest.Lacks members) ∧
      (answer.status = 400 ∧ answer.code? = some "INVALID_AST" ↔
        ¬EvaluationRequest.Lacks members ∧
          ∃ ast e, EvaluationRequest.HasValue members "ast" ast ∧ Tree.ofJson ast = .error e) ∧
      (answer.status = 200 ↔ (∃ seconds, around.evaluation = .finished seconds) ∧
        ¬EvaluationRequest.Lacks members ∧
          ∃ ast tree, EvaluationRequest.HasValue members "ast" ast ∧ Tree.ofJson ast = .ok tree) ∧
      (answer.status = 200 → ∃ ast tree record traced,
        EvaluationRequest.HasValue members "ast" ast ∧ Tree.ofJson ast = .ok tree ∧
          EvaluationRequest.HasValue members "data" (.object record) ∧
            (traced = true ↔ (some "trace", .bool true) ∈ members) ∧
              answer.body = .json (.object (("result", .bool (tree.holds record)) ::
                if traced then
                  [("trace", .array ((tree.execute true record).log.lines.map .string))]
                else []))) ∧
      (500 ≤ answer.status ↔ (∃ reason, around.evaluation = .failed reason) ∧
        ¬EvaluationRequest.Lacks members ∧
          ∃ ast tree, EvaluationRequest.HasValue members "ast" ast ∧
            Tree.ofJson ast = .ok tree) := by
  intro answer
  obtain ⟨-, -, hleads⟩ := Endpoint.destination_post
  obtain ⟨hstatus, hbody⟩ := s.answer_post origins around posts.method posts.path hleads
  have hcode : answer.code? = (Endpoint.evaluateTree around request s).1.code? :=
    Response.code?_congr hbody
  change answer.status = (Endpoint.evaluateTree around request s).1.status at hstatus
  change answer.body = (Endpoint.evaluateTree around request s).1.body at hbody
  rw [hstatus, hcode, hbody, Endpoint.evaluateTree]
  rcases posts.evaluation_cases with ⟨hlacks, reason, heq⟩ |
    ⟨hnothing, ast, record, traced, hast, hdata, htraced, heq⟩
  · simp [heq, hlacks, ApiError.status, ApiError.code]
  · have hasTree (v : Json) : EvaluationRequest.HasValue members "ast" v ↔ v = ast :=
      ⟨fun hv => posts.hasValue_unique hv hast, fun hv => hv ▸ hast⟩
    cases htree : Tree.ofJson ast with
    | error e =>
      rw [htree] at heq
      simp [heq, hnothing, hasTree, htree, ApiError.status, ApiError.code, Except.map,
        Except.mapError]
    | ok tree =>
      have hverdict := tree.isMatch_execute traced record
      rw [htree] at heq
      change _ = Except.ok (traced, tree, record) at heq
      rw [heq]
      cases htask : around.evaluation with
      | failed reason =>
        simp [hnothing, hasTree, htree, ApiError.ofFailedTask, ApiError.status, ApiError.code]
      | finished seconds =>
        refine ⟨by simp [hnothing], by simp [hasTree, htree],
          by simp [hnothing, hasTree, htree], fun _ => ?_, by simp⟩
        refine ⟨ast, tree, record, traced, hast, htree, hdata, htraced, ?_⟩
        dsimp only [Response.json]
        rw [hverdict]
        cases traced <;> rfl

/-- A member of an object that nests no deeper than texts may is read to its value. -/
theorem toJson?_draft_of_mem {ms : List (String × Json)} {m : String × Json}
    (nesting : (Json.object ms).nesting ≤ Json.nestingLimit) (h : m ∈ ms) :
    m.2.draft.toJson? (Json.nestingLimit - 1) = some m.2.canonical := by
  have hle := Json.nesting_le_memberNesting h
  rw [Json.nesting] at nesting
  exact Draft.toJson?_draft m.2 (by omega)

/-- The text of an object has the values of its members. -/
theorem EvaluationRequest.hasValue_of_mem {ms : List (String × Json)} {m : String × Json}
    (nesting : (Json.object ms).nesting ≤ Json.nestingLimit) (h : m ∈ ms) :
    HasValue (Json.memberDrafts ms) m.1 m.2.canonical := by
  rw [Json.memberDrafts_eq_map]
  exact ⟨m.2.draft, List.mem_map_of_mem h, toJson?_draft_of_mem nesting h⟩

/-- The text of an object with distinct keys posts the object, if it has room in a body. -/
theorem PostsObject.of_text (ms : List (String × Json)) (distinct : (ms.map (·.1)).Nodup)
    (nesting : (Json.object ms).nesting ≤ Json.nestingLimit)
    (size : (Json.object ms).text.utf8ByteSize ≤ bodyLimit)
    (readsBack : ∀ n ∈ (Json.object ms).doubles, n.ReadsBack) :
    PostsObject ⟨"POST", "/evaluate_rule", [("content-type", "application/json")],
      (Json.object ms).text⟩ (Json.memberDrafts ms) where
  method := rfl
  path := by
    change Target.path "/evaluate_rule" = _
    decide +kernel
  mediaType := by
    change (Headers.visible? "content-type" [("content-type", "application/json")]).any _ = true
    decide +kernel
  size := size
  body := by
    rw [Json.text, String.toList_ofList, Draft.readText_chars, Json.reread_eq_self readsBack]
    rfl
  distinct := by
    have hnames := distinct.map fun _ _ => Option.some.inj
    rw [List.map_map] at hnames
    rw [Json.memberDrafts_eq_map, List.map_map]
    exact hnames
  named m hm := by
    rw [Json.memberDrafts_eq_map] at hm
    obtain ⟨_, -, rfl⟩ := List.mem_map.1 hm
    exact Option.some_ne_none _
  values d hd := by
    simp only [Json.memberDrafts_eq_map, List.mem_map, Prod.mk.injEq] at hd
    obtain ⟨m, hm, -, rfl⟩ | ⟨m, hm, -, rfl⟩ := hd
    · exact ⟨_, toJson?_draft_of_mem nesting hm⟩
    · exact ⟨_, toJson?_draft_of_mem nesting hm⟩

/-- The body `{"ast":{},"data":{},"trace":null}` lacks whether to trace, and so it is not looked at
what its tree is, although that is no rule tree either. A tree with a record and `true` is evaluated
and answered with its trace. -/
theorem ServiceState.answer_evaluation_iff_null_trace :
    let tree : Tree := .leaf ⟨"n", .eq, .text "x"⟩
    let record : Record := [("n", .string "x")]
    let lacking := [("ast", .object []), ("data", .object []), ("trace", .null)]
    let traced := [("ast", tree.toJson), ("data", .object record), ("trace", .bool true)]
    let answer (members : List (String × Json)) : Response :=
      (fresh.answer .any ⟨"", "", ⟨0, 0⟩, .zero, .zero⟩ ⟨"POST", "/evaluate_rule",
        [("content-type", "application/json")], (Json.object members).text⟩).1
    ((answer lacking).status = 400 ∧ (answer lacking).code? = some "VALIDATION_ERROR") ∧
      (answer traced).status = 200 ∧
        (answer traced).body = .json (.object [("result", .bool true),
          ("trace", .array [.string "root: n = 'x' => MATCHED"])]) := by
  intro tree record lacking traced answer
  have noDoubles {v : Json} (h : v.doubles = []) : ∀ n ∈ v.doubles, n.ReadsBack := by simp [h]
  refine ⟨?_, ?_⟩
  · have posts := PostsObject.of_text lacking (by decide) (by decide +kernel)
      (by decide +kernel) (noDoubles rfl)
    obtain ⟨hlacking, -⟩ :=
      ServiceState.answer_evaluation_iff posts fresh .any ⟨"", "", ⟨0, 0⟩, .zero, .zero⟩
    refine hlacking.2 (.trace (d := .null) ?_ nofun)
    simp [lacking, Json.memberDrafts_eq_map, Json.draft]
  · have hnesting : (Json.object traced).nesting ≤ Json.nestingLimit := by decide +kernel
    have posts := PostsObject.of_text traced (by decide) hnesting (by decide +kernel)
      (noDoubles rfl)
    obtain ⟨-, -, hgranted, hbody, -⟩ :=
      ServiceState.answer_evaluation_iff posts fresh .any ⟨"", "", ⟨0, 0⟩, .zero, .zero⟩
    have hast : EvaluationRequest.HasValue _ "ast" tree.toJson.canonical :=
      EvaluationRequest.hasValue_of_mem hnesting (List.mem_cons_self ..)
    have hdata : EvaluationRequest.HasValue _ "data" (Json.object record).canonical :=
      EvaluationRequest.hasValue_of_mem hnesting (List.mem_cons_of_mem _ (List.mem_cons_self ..))
    have htrace (d : Draft) : (some "trace", d) ∈ Json.memberDrafts traced ↔ d = .bool true := by
      simp [traced, Json.memberDrafts_eq_map, Json.draft]
    have htree : Tree.ofJson tree.toJson.canonical = .ok tree := rfl
    have hlacks : ¬EvaluationRequest.Lacks (Json.memberDrafts traced) := by
      rintro (⟨there, other⟩ | ⟨absent⟩ | ⟨absent⟩ | ⟨there, other⟩)
      · exact other true ((htrace _).1 there)
      · cases absent _ hast
      · cases absent _ hdata
      · exact other record (posts.hasValue_unique there hdata)
    have hstatus := hgranted.2 ⟨⟨_, rfl⟩, hlacks, _, _, hast, htree⟩
    refine ⟨hstatus, ?_⟩
    obtain ⟨_, _, _, isTraced, hast', htree', hdata', htraced, hbody⟩ := hbody hstatus
    obtain rfl := posts.hasValue_unique hast' hast
    obtain rfl := Except.ok.inj (htree'.symm.trans htree)
    obtain rfl := Json.object.inj (posts.hasValue_unique hdata' hdata)
    obtain rfl : isTraced = true := htraced.2 ((htrace _).2 rfl)
    have hholds : tree.holds record = true := by decide +kernel
    have hlines : (tree.execute true record).log.lines = ["root: n = 'x' => MATCHED"] := by
      decide +kernel
    refine hbody.trans ?_
    change Body.json (.object [("result", .bool (tree.holds record)),
      ("trace", .array ((tree.execute true record).log.lines.map .string))]) = _
    rw [hholds, hlines]
    rfl

end Rulebook
