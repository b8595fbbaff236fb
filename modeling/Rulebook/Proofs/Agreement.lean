import Rulebook.Proofs.Evaluation
import Rulebook.Proofs.JsonText
import Rulebook.Proofs.Routing
import Rulebook.Proofs.Transmission

/-!
# From one endpoint to the other

A tree that one endpoint has compiled or combined can be posted to another to be evaluated, and is
evaluated there as the tree itself is evaluated on the record
(`Endpoint.answer_evaluation_of_answer_tree`). Four things have to meet: a tree from rule texts has
finite literals and operators that are read back; it has at most `maxDepth` levels, and so its JSON
nests little enough to be read inside a body; the text of the body is read as what was written; and
the record, whose keys are distinct, is read with the same values under the same keys.
-/

namespace Rulebook

namespace Tree

/-- The JSON value of a tree nests one level deeper than the tree. -/
theorem nesting_toJson (t : Tree) : t.toJson.nesting = t.depth + 1 := by
  induction t with
  | leaf c =>
    have hliteral : c.literal.toJson.nesting = 0 := by
      obtain h | ⟨n, h⟩ | ⟨s, h⟩ := c.literal.cases_toJson <;> rw [h] <;> rfl
    simp [toJson, Condition.toJson, Json.nesting, Json.memberNesting, depth, hliteral]
  | node k left right ihl ihr =>
    simp only [toJson, Json.nesting, Json.memberNesting, depth]
    omega

/-- A tree that is not too deep nests little enough inside a body, which is one more level. -/
theorem nesting_toJson_lt {t : Tree} (h : t.depth ≤ maxDepth) :
    t.toJson.nesting < Json.nestingLimit := by
  have hlevels := t.nesting_toJson
  unfold maxDepth at h
  unfold Json.nestingLimit
  omega

/-- A tree is not written as a null. -/
theorem toJson_ne_null (t : Tree) : t.toJson ≠ .null := by
  obtain ⟨⟨ms, hobject⟩, -⟩ := t.exists_toJson_eq
  rw [hobject]
  simp

end Tree

namespace EvaluationRequest

/-- A value in a body that is not null is read, with its objects in order. -/
theorem optional_draft {v : Json} (hnull : v ≠ .null) (hnesting : v.nesting < Json.nestingLimit) :
    optional v.draft = .ok (some v.canonical) := by
  have hread : v.draft.asJson (Json.nestingLimit - 1) = .ok v.canonical := by
    rw [Json.Draft.asJson, Json.Draft.toJson?_draft v (Nat.le_sub_one_of_lt hnesting)]
  -- Only a null is taken for an absent value.
  cases v with
  | null => exact absurd rfl hnull
  | _ =>
    rw [Json.draft] at hread ⊢
    rw [optional, hread]
    · rfl
    · simp

/-- The body of a request that brings a tree, a record and whether to trace. -/
def body (tree : Json) (record : Record) (traced : Bool) : Json :=
  .object [("ast", tree), ("data", .object record), ("trace", .bool traced)]

/-- The text of a body is read as the request that it was written for, with its numbers as they are
read alone. -/
theorem ofText_body {tree : Json} {record : Record} (traced : Bool) (hnull : tree ≠ .null)
    (htree : tree.nesting < Json.nestingLimit)
    (hrecord : (Json.object record).nesting < Json.nestingLimit) :
    shape.ofText (body tree record traced).chars =
      .ok ⟨some tree.reread.canonical, some (Json.object record).reread.canonical, traced⟩ := by
  have hread : Json.Draft.readText (body tree record traced).chars =
      .complete (body tree record traced).reread.draft := Json.Draft.readText_chars _
  have hnull : tree.reread ≠ .null := by cases tree <;> simp_all [Json.reread]
  rw [← Json.nesting_reread] at htree hrecord
  have htree := optional_draft hnull htree
  have hrecord := optional_draft (by simp [Json.reread]) hrecord
  have htraced : (Json.bool traced).reread.draft = .bool traced := rfl
  rw [Json.Shape.ofText, hread]
  dsimp only
  rw [Json.Draft.State.value, body, Json.reread, Json.rereadMembers, Json.rereadMembers,
    Json.rereadMembers, Json.rereadMembers, Json.draft, Json.memberDrafts, Json.memberDrafts,
    Json.memberDrafts, Json.memberDrafts]
  simp [Json.Shape.ofDraft, shape, Json.Shape.takeMembers, htree, hrecord, htraced,
    Json.Draft.asBool, bind, Except.bind, pure, Except.pure, mapError_ok]

end EvaluationRequest

/-- A request that posts a tree, a record and whether to trace, for an evaluation. -/
structure PostsEvaluation (request : Request) (tree : Json) (record : Record) (traced : Bool) :
    Prop where
  method : request.method = "POST"
  path : Target.path request.target = "/evaluate_rule"
  mediaType : (request.headers.visible? "content-type").any MediaType.isJson = true
  body : request.body = (EvaluationRequest.body tree record traced).text
  size : request.body.utf8ByteSize ≤ bodyLimit

/-- A posted evaluation is read as the request that it was written for, with its numbers as they are
read alone. -/
theorem PostsEvaluation.payload_eq {request : Request} {tree : Json} {record : Record}
    {traced : Bool} (posts : PostsEvaluation request tree record traced) (hnull : tree ≠ .null)
    (htree : tree.nesting < Json.nestingLimit)
    (hrecord : (Json.object record).nesting < Json.nestingLimit) :
    payload EvaluationRequest.shape request =
      .ok ⟨some tree.reread.canonical, some (Json.object record).reread.canonical, traced⟩ := by
  rw [payload, posts.mediaType, if_neg (by simp), if_neg (Nat.not_lt.2 posts.size), posts.body,
    Json.text, String.toList_ofList,
    EvaluationRequest.ofText_body traced hnull htree hrecord]
  rfl

/-- A request whose rule text is compiled to a tree, or whose rule texts are combined to it. -/
inductive MakesTree (request : Request) (tree : Tree) : Prop
  | create {source : String} (path : Target.path request.target = "/create_rule")
      (brought : sourcePayload request = .ok source) (compiled : compile source = .ok tree)
  | combine {sources : List String} (path : Target.path request.target = "/combine_rules")
      (brought : payload sourcesShape request = .ok sources)
      (combined : combine sources = .ok (some tree))

/-- A tree that a request makes is one that rule texts can have, and not too deep. -/
theorem MakesTree.written {request : Request} {tree : Tree} (h : MakesTree request tree) :
    tree.Written ∧ tree.depth ≤ Tree.maxDepth := by
  cases h with
  | create _ _ compiled =>
    exact ⟨Tree.written_of_compile compiled, Tree.depth_le_of_compile compiled⟩
  | combine _ _ combined =>
    exact ⟨Tree.written_of_combine combined, Tree.depth_le_of_combine combined⟩

namespace Endpoint

/-- A tree that an endpoint answers with has been made by the request. -/
theorem exists_of_answerTree {s : ServiceState} {result : Except RuleError (Option Tree)}
    {ast : Json} (status : (answerTree s result).1.status = 200)
    (body : (answerTree s result).1.body = .json (.object [("ast", ast)])) (hnull : ast ≠ .null) :
    ∃ tree, result = .ok (some tree) ∧ ast = tree.toJson := by
  cases result with
  | error e => exact absurd status (ApiError.status_response_ne _)
  | ok tree =>
    cases tree with
    | none =>
      cases body
      exact absurd rfl hnull
    | some tree =>
      cases body
      exact ⟨tree, rfl, rfl⟩

/-- A request that is answered with a tree makes it. -/
theorem exists_makesTree {origins : Origins} {around : Surroundings} {request : Request}
    {s : ServiceState} {ast : Json} (method : request.method = "POST")
    (path : Target.path request.target = "/create_rule" ∨
      Target.path request.target = "/combine_rules")
    (status : (s.answer origins around request).1.status = 200)
    (body : (s.answer origins around request).1.body = .json (.object [("ast", ast)]))
    (hnull : ast ≠ .null) : ∃ tree, MakesTree request tree ∧ ast = tree.toJson := by
  obtain ⟨hcreate, hcombine, -⟩ := destination_post
  rcases path with path | path
  · obtain ⟨hstatus, hbody⟩ := s.answer_post origins around method path hcreate
    rw [hstatus] at status
    rw [hbody] at body
    -- An error is not answered with success, so each step has come to a result.
    unfold run create at status body
    cases hsource : sourcePayload request with
    | error e =>
      rw [hsource] at status
      exact absurd status (ApiError.status_response_ne e)
    | ok source =>
      rw [hsource] at status body
      obtain ⟨tree, hresult, hast⟩ := exists_of_answerTree status body hnull
      cases hcompiled : compile source with
      | error e =>
        rw [hcompiled] at hresult
        cases hresult
      | ok tree' =>
        rw [hcompiled] at hresult
        cases hresult
        exact ⟨tree, .create path hsource hcompiled, hast⟩
  · obtain ⟨hstatus, hbody⟩ := s.answer_post origins around method path hcombine
    rw [hstatus] at status
    rw [hbody] at body
    unfold run combine at status body
    cases hsources : payload sourcesShape request with
    | error e =>
      rw [hsources] at status
      exact absurd status (ApiError.status_response_ne e)
    | ok sources =>
      rw [hsources] at status body
      obtain ⟨tree, hresult, hast⟩ := exists_of_answerTree status body hnull
      exact ⟨tree, .combine path hsources hresult, hast⟩

/-- A request that makes a tree is answered with it. -/
theorem answer_of_makesTree (s : ServiceState) (origins : Origins) (around : Surroundings)
    {request : Request} {tree : Tree} (method : request.method = "POST")
    (h : MakesTree request tree) :
    (s.answer origins around request).1.status = 200 ∧
      (s.answer origins around request).1.body = .json (.object [("ast", tree.toJson)]) := by
  obtain ⟨hcreate, hcombine, -⟩ := destination_post
  cases h with
  | create path brought compiled =>
    obtain ⟨hstatus, hbody⟩ := s.answer_post origins around method path hcreate
    rw [hstatus, hbody, run, create, brought]
    simp only [compiled]
    exact ⟨rfl, rfl⟩
  | combine path brought combined =>
    obtain ⟨hstatus, hbody⟩ := s.answer_post origins around method path hcombine
    rw [hstatus, hbody, run, combine, brought]
    simp only [combined]
    exact ⟨rfl, rfl⟩

/-- A tree that rule texts can have is evaluated from a body as it is. -/
theorem evaluation_eq {request : Request} {tree : Tree} {record : Record} {traced : Bool}
    (hwritten : tree.Written) (hdepth : tree.depth ≤ Tree.maxDepth)
    (posts : PostsEvaluation request tree.toJson record traced)
    (distinct : (record.map (·.1)).Nodup)
    (hnesting : (Json.object record).nesting < Json.nestingLimit)
    (readsBack : ∀ n ∈ tree.toJson.doubles ++ (Json.object record).doubles, n.ReadsBack) :
    ∃ tree' record', evaluation request = .ok (traced, tree', record') ∧
      tree'.execute traced record' = tree.execute traced record := by
  have htree := Tree.nesting_toJson_lt hdepth
  -- Reading may order the members of the record anew, but each keeps its value.
  obtain ⟨record', hrecord, hmembers⟩ := Json.exists_canonical_object distinct
  obtain ⟨read, finite⟩ := hwritten.isRead
  have hpayload : payload EvaluationRequest.shape request =
      .ok ⟨some tree.toJson.canonical, some (.object record'), traced⟩ := by
    obtain ⟨htreeBack, hrecordBack⟩ := List.forall_mem_append.1 readsBack
    rw [posts.payload_eq tree.toJson_ne_null htree hnesting,
      Json.reread_eq_self htreeBack, Json.reread_eq_self hrecordBack, hrecord]
  have hofJson : Tree.ofJson tree.toJson.canonical = .ok tree.sent := by
    obtain ⟨hwritten, hcanonical⟩ := tree.ofJson_toJson
    rw [hcanonical, hwritten, if_pos (List.all_eq_true.2 finite)]
  refine ⟨tree.sent, record', ?_, ?_⟩
  · rw [evaluation, hpayload]
    simp only [bind, Except.bind, EvaluationRequest.parts, hofJson, mapError_ok]
    rfl
  · rw [Tree.execute_sent read]
    exact Tree.execute_eq_of_member? hmembers tree traced

/-- A tree that one endpoint answers with is evaluated by another as the tree of the rule text
itself: if its task ends with a result, this is the verdict of that tree on the record, and the
trace, if one is asked for, is the one that is kept when the tree is evaluated with a trace. -/
theorem answer_evaluation_of_answer_tree {origins : Origins} {around : Surroundings}
    {s : ServiceState} {request : Request} {ast : Json} (method : request.method = "POST")
    (path : Target.path request.target = "/create_rule" ∨
      Target.path request.target = "/combine_rules")
    (status : (s.answer origins around request).1.status = 200)
    (body : (s.answer origins around request).1.body = .json (.object [("ast", ast)]))
    (hnull : ast ≠ .null) :
    ∃ tree, MakesTree request tree ∧
      ∀ (origins' : Origins) (around' : Surroundings) (s' : ServiceState) (request' : Request)
        (record : Record) (traced : Bool) (seconds : Double),
        PostsEvaluation request' ast record traced → around'.evaluation = .finished seconds →
        (record.map (·.1)).Nodup → (Json.object record).nesting < Json.nestingLimit →
        (∀ n ∈ ast.doubles ++ (Json.object record).doubles, n.ReadsBack) →
        (s'.answer origins' around' request').1.status = 200 ∧
          (s'.answer origins' around' request').1.body =
            .json (.object (("result", .bool (tree.holds record)) ::
              if traced then
                [("trace", .array ((tree.execute true record).log.lines.map .string))]
              else [])) := by
  obtain ⟨tree, makes, rfl⟩ := exists_makesTree method path status body hnull
  obtain ⟨hwritten, hdepth⟩ := makes.written
  refine ⟨tree, makes, ?_⟩
  intro origins' around' s' request' record traced seconds posts finishes distinct hnesting
    readsBack
  obtain ⟨-, -, hevaluate⟩ := destination_post
  obtain ⟨hstatus, hbody⟩ := s'.answer_post origins' around' posts.method posts.path hevaluate
  obtain ⟨tree', record', hevaluation, hexecute⟩ :=
    evaluation_eq hwritten hdepth posts distinct hnesting readsBack
  have hmatch := tree.isMatch_execute traced record
  rw [hstatus, hbody, run, evaluateTree, hevaluation]
  simp only [finishes, hexecute, hmatch]
  cases traced <;> exact ⟨rfl, rfl⟩

/-- The rule `a<'1'` is created, and its tree is posted with a record in which `a` is the double
zero. -/
theorem answer_evaluation_of_answer_tree_zero :
    ∃ tree, MakesTree ⟨"POST", "/create_rule", [("content-type", "application/json")],
          "\x7b\"ruleString\":\"a<'1'\"\x7d"⟩ tree ∧
      (ServiceState.fresh.answer .any ⟨"", "", ⟨0, 0⟩, .zero, .zero⟩
        ⟨"POST", "/evaluate_rule", [("content-type", "application/json")],
          (EvaluationRequest.body (Tree.leaf ⟨"a", .lt, .text "1"⟩).toJson
            [("a", .number (.real false 0 representable_zero))] true).text⟩).1.status
        = 200 := by
  have hsource : sourcePayload ⟨"POST", "/create_rule", [("content-type", "application/json")],
      "\x7b\"ruleString\":\"a<'1'\"\x7d"⟩ = .ok "a<'1'" := by decide +kernel
  have hcompiled : compile "a<'1'" = .ok (.leaf ⟨"a", .lt, .text "1"⟩) := by decide +kernel
  have hcreated : MakesTree ⟨"POST", "/create_rule", [("content-type", "application/json")],
      "\x7b\"ruleString\":\"a<'1'\"\x7d"⟩ (.leaf ⟨"a", .lt, .text "1"⟩) :=
    .create rfl hsource hcompiled
  obtain ⟨hstatus, hbody⟩ :=
    answer_of_makesTree ServiceState.fresh .any ⟨"", "", ⟨0, 0⟩, .zero, .zero⟩ rfl hcreated
  obtain ⟨tree, makes, hevaluated⟩ :=
    answer_evaluation_of_answer_tree rfl (.inl rfl) hstatus hbody (fun h => nomatch h)
  have posts : PostsEvaluation
      ⟨"POST", "/evaluate_rule", [("content-type", "application/json")],
        (EvaluationRequest.body (Tree.leaf ⟨"a", .lt, .text "1"⟩).toJson
          [("a", .number (.real false 0 representable_zero))] true).text⟩
      (Tree.leaf ⟨"a", .lt, .text "1"⟩).toJson
      [("a", .number (.real false 0 representable_zero))] true :=
    ⟨rfl, rfl, by decide +kernel, rfl, by decide +kernel⟩
  have hzero : (Json.Number.real false 0 representable_zero).ReadsBack :=
    Json.Number.readsBack_of_isSame (by decide +kernel)
  exact ⟨tree, makes, (hevaluated _ _ _ _ _ _ _ posts rfl (by simp) (by decide +kernel)
    (List.forall_mem_singleton.2 hzero)).1⟩

end Endpoint

end Rulebook
