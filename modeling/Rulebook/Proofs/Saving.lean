import Rulebook.Proofs.Counters
import Rulebook.Proofs.Lookup
import Rulebook.Proofs.Nesting
import Rulebook.Proofs.Refusals
import Rulebook.Proofs.Routing

/-!
# Saving and compiling accept the same rules

A text can be saved if and only if it compiles (`Store.exists_save_iff`): the check for white space,
which the store makes first, refuses only texts that have no tokens. So a request to save a rule and
a request to compile it are granted together (`ServiceState.answer_save_iff_create`). What is saved
is the text that the body brings, and compiled by its id it is the tree of the other answer. What is
refused is refused with the same answer, but for a blank text: to the store it is no rule, to the
compiler it is one without conditions.
-/

namespace Rulebook

open Json (Draft)

/-! ## The two checks -/

/-- A blank text is compiled to nothing. -/
theorem compile_of_blank {source : String} (h : (Text.trim source.toList).isEmpty = true) :
    compile source = .error .emptyExpression := by
  have hfault : Token.gapFault? 0 source.toList = none := by simp [Token.gapFault?, h]
  have hscans : Token.Scans none 0 source.toList [] :=
    .blank (Token.gapFault?_eq_none_iff.1 hfault)
  have hscan : Token.scan source = .ok [] := Token.scans_iff.1 hscans
  rw [compile, hscan]
  rfl

/-- A text can be saved if and only if it compiles. -/
theorem Store.exists_save_iff (s : Store) (id : String) (now : Instant) (source : String) :
    (∃ saved, s.save id now source = .ok saved) ↔ ∃ t, Rulebook.compile source = .ok t := by
  constructor
  · rintro ⟨saved, hsave⟩
    obtain ⟨_, hcheck, -⟩ := map_eq_ok.1 hsave
    exact compiles_of_check hcheck
  · rintro ⟨t, hcompile⟩
    have hfilled : ¬(Text.trim source.toList).isEmpty = true := by
      intro hblank
      rw [compile_of_blank hblank] at hcompile
      cases hcompile
    have hcheck : check source = .ok () := by rw [check, if_neg hfilled, hcompile]
    exact ⟨_, map_eq_ok.2 ⟨(), hcheck, rfl⟩⟩

/-! ## The text that a body brings -/

/-- A body brings a rule text: as the one member of an object that is called `ruleString`, or as the
one item of an array. -/
inductive Json.Draft.Brings (source : String) : Draft → Prop
  | member {members : List (Option String × Draft)}
      (there : (some "ruleString", .string (some source)) ∈ members)
      (only : ∀ d, (some "ruleString", d) ∈ members → d = .string (some source)) :
      Brings source (.object members true)
  | item : Brings source (.array [.string (some source)] true)

/-- A string is read from itself alone. -/
theorem Json.Draft.asString_eq_ok {d : Draft} {s : String} :
    d.asString = .ok s ↔ d = .string (some s) := by
  constructor
  · intro h
    unfold asString at h
    split at h
    · cases h
      rfl
    · cases h
  · rintro rfl
    rfl

/-- The rule text is gathered from the member `ruleString`. -/
theorem gathers_source : sourceShape.Gathers "ruleString" id Draft.asString where
  known := by simp [sourceShape]
  isSet := by simp [sourceShape]
  reads f hf _ p d p' h := by
    simp only [sourceShape, List.mem_singleton] at hf
    subst hf
    obtain ⟨x, hx, hp'⟩ := bind_eq_ok.1 h
    cases hp'
    exact ⟨x, hx, rfl⟩
  keeps f hf hname := by
    simp only [sourceShape, List.mem_singleton] at hf
    subst hf
    exact absurd rfl hname

/-- The rule text that a value is read to is the one that it brings. -/
theorem brings_of_ofDraft {d : Draft} {source : String} (h : sourceShape.ofDraft d = .ok source) :
    d.Brings source := by
  have hfinish {p : Option String} (hp : sourceShape.finish p = .ok source) : p = some source := by
    cases p with
    | none => cases hp
    | some s =>
      cases hp
      rfl
  cases d with
  | object members closed =>
    obtain ⟨p, htakes, hclosed⟩ := bind_eq_ok.1 h
    split at hclosed
    · next hend =>
      subst hend
      obtain rfl := hfinish (mapError_eq_ok.1 hclosed)
      obtain ⟨-, hmember, habsent⟩ := gathers_source.takeMembers htakes
      have honly : ∀ d, (some "ruleString", d) ∈ members → d = .string (some source) := by
        intro d hd
        obtain ⟨x, hread, hpart⟩ := hmember d hd
        obtain rfl : source = x := Option.some.inj hpart
        exact Draft.asString_eq_ok.1 hread
      -- Without the member there would be no text.
      by_contra hnot
      have hnone : ∀ d, (some "ruleString", d) ∉ members := by
        intro d hd
        obtain rfl := honly d hd
        exact hnot (.member hd honly)
      cases habsent hnone
    · cases hclosed
  | array items closed =>
    obtain ⟨p, htakes, hclosed⟩ := bind_eq_ok.1 h
    split at hclosed
    · next hend =>
      subst hend
      obtain rfl := hfinish (mapError_eq_ok.1 hclosed)
      cases items with
      | nil => cases htakes
      | cons d rest =>
        obtain ⟨q, hread, hrest⟩ := bind_eq_ok.1 htakes
        obtain ⟨x, hx, hq⟩ := bind_eq_ok.1 (mapError_eq_ok.1 hread)
        cases hq
        cases rest with
        | nil =>
          cases hrest
          obtain rfl := Draft.asString_eq_ok.1 hx
          exact .item
        | cons _ _ => cases hrest
    · cases hclosed
  | _ => cases h

/-- The rule text of a request is what its body brings. -/
theorem brings_of_sourcePayload {request : Request} {source : String}
    (h : sourcePayload request = .ok source) :
    (Draft.readText request.body.toList).value.Brings source := by
  rw [sourcePayload_eq] at h
  split at h
  · next source' hpayload =>
    split at h
    · cases h
    · cases h
      have hdraft := Json.Shape.ofDraft_of_ofText (ofText_of_payload hpayload)
      generalize (Draft.readText request.body.toList).value = d at hdraft
      exact brings_of_ofDraft hdraft
  · cases h

/-! ## The two answers -/

/-- The body is read the same whatever else is asked. -/
theorem sourcePayload_congr {request request' : Request}
    (headers : request.headers = request'.headers) (body : request.body = request'.body) :
    sourcePayload request = sourcePayload request' := by
  unfold sourcePayload payload
  rw [headers, body]

/-- What saving and compiling the text of a request come to: both refuse the request, or both refuse
the text, which is blank or no rule, or the text is saved and compiled to its tree. -/
inductive Endpoint.Outcomes (around : Surroundings) (request : Request) (store : Store) :
    (saved : Response) → (left : Store) → (created : Response) → Prop
  | refused {reason : String} (brought : request.bringsBlankRule = false) :
      Outcomes around request store (ApiError.validation reason).response store
        (ApiError.validation reason).response
  | blank (brought : request.bringsBlankRule = true) :
      Outcomes around request store (ApiError.validation RuleError.emptyRule.message).response store
        (ApiError.ofRuleError (.notARule .emptyExpression)).response
  | notARule {e : SyntaxError} (brought : request.bringsBlankRule = false) :
      Outcomes around request store (ApiError.ofRuleError (.notARule e)).response store
        (ApiError.ofRuleError (.notARule e)).response
  | saved {source : String} {tree : Tree} {left : Store}
      (brought : (Draft.readText request.body.toList).value.Brings source)
      (saves : store.save around.ruleId around.now source =
        .ok (⟨around.ruleId, source, around.now⟩, left))
      (compiles : Rulebook.compile source = .ok tree) :
      Outcomes around request store
        (.json 201 (StoredRule.mk around.ruleId source around.now).toJson) left
        (.json 200 (Endpoint.treeJson (some tree)))

/-- A text that can be saved is saved as it is. -/
theorem Store.save_eq_of_compile {source : String} {tree : Tree}
    (h : Rulebook.compile source = .ok tree) (s : Store) (id : String) (now : Instant) :
    s.save id now source =
      .ok (⟨id, source, now⟩, s.reserve.2.insert ⟨s.reserve.1, ⟨id, source, now⟩⟩) := by
  obtain ⟨saved, hsave⟩ := (s.exists_save_iff id now source).2 ⟨tree, h⟩
  rw [hsave]
  obtain ⟨_, -, rfl⟩ := map_eq_ok.1 hsave
  rfl

/-- Saving and compiling the text of a request come to the one or the other. -/
theorem outcomes_of_run (around : Surroundings) {request request' : Request}
    (same : sourcePayload request = sourcePayload request') (s s' : ServiceState) :
    Endpoint.Outcomes around request s.store (Endpoint.save around request s).1
      (Endpoint.save around request s).2.store (Endpoint.create request' s').1 := by
  unfold Endpoint.save Endpoint.create
  rw [← same]
  cases hsource : sourcePayload request with
  | error e =>
    obtain ⟨⟨reason, rfl⟩, hbrought⟩ := of_sourcePayload_eq_error hsource
    exact .refused hbrought
  | ok source =>
    have hbrought := bringsBlankRule_of_sourcePayload hsource
    dsimp only
    cases hcompile : compile source with
    | ok tree =>
      have hsave := Store.save_eq_of_compile hcompile s.store around.ruleId around.now
      rw [hsave]
      exact .saved (brings_of_sourcePayload hsource) hsave hcompile
    | error e =>
      by_cases hblank : (Text.trim source.toList).isEmpty = true
      · obtain rfl : SyntaxError.emptyExpression = e :=
          Except.error.inj ((compile_of_blank hblank).symm.trans hcompile)
        have hsave : s.store.save around.ruleId around.now source = .error .emptyRule := by
          rw [Store.save, Store.check, if_pos hblank]
          rfl
        rw [hsave]
        exact .blank (hbrought.trans hblank)
      · have hsave : s.store.save around.ruleId around.now source = .error (.notARule e) := by
          rw [Store.save, Store.check, if_neg hblank, hcompile]
          rfl
        rw [hsave]
        exact .notARule (hbrought.trans (Bool.eq_false_iff.2 hblank))

/-- Two requests that post the same, the one to save a rule and the other to compile it. -/
structure PostsRule (saves creates : Request) : Prop where
  method : saves.method = "POST" ∧ creates.method = "POST"
  savesPath : Target.path saves.target = "/rules"
  createsPath : Target.path creates.target = "/create_rule"
  headers : saves.headers = creates.headers
  body : saves.body = creates.body

/-- A text can be saved if and only if it compiles, and a request to save one is granted if and only
if the same request to compile it is. Then the text that the body brings is stored as it is, and
compiled by its id it is the tree of the other answer. If both are refused, the answers have the
same body, but for a text that is blank and not empty, and the store is left as it is. -/
theorem ServiceState.answer_save_iff_create {saves creates : Request}
    (posts : PostsRule saves creates) (s s' : ServiceState) (origins origins' : Origins)
    (around around' : Surroundings) :
    let saved := s.answer origins around saves
    let created := (s'.answer origins' around' creates).1
    (∀ (store : Store) (id : String) (now : Instant) (source : String),
        (∃ result, store.save id now source = .ok result) ↔ ∃ t, compile source = .ok t) ∧
      (saved.1.status = 201 ↔ created.status = 200) ∧
      (saved.1.status = 201 → ∃ source tree,
        (Draft.readText saves.body.toList).value.Brings source ∧
          saved.2.store.get? around.ruleId = some ⟨around.ruleId, source, around.now⟩ ∧
            saved.2.store.compile around.ruleId = .ok tree ∧
              created.body = .json (.object [("ast", tree.toJson)])) ∧
      (saved.1.status ≠ 201 → saved.1.status = 400 ∧ created.status = 400 ∧
        saved.2.store = s.store ∧
          (saves.bringsBlankRule = false → saved.1.body = created.body) ∧
            (saves.bringsBlankRule = true → saved.1.code? = some "VALIDATION_ERROR" ∧
              created.code? = some "RULE_SYNTAX_ERROR")) := by
  intro saved created
  refine ⟨Store.exists_save_iff, ?_⟩
  have hsavesTo : Route.destination Endpoint.routes "POST" "/rules" = .entry .saveRule [] := rfl
  obtain ⟨hcreatesTo, -, -⟩ := Endpoint.destination_post
  obtain ⟨hstatus, hbody⟩ :=
    s.answer_post origins around posts.method.1 posts.savesPath hsavesTo
  obtain ⟨hstatus', hbody'⟩ :=
    s'.answer_post origins' around' posts.method.2 posts.createsPath hcreatesTo
  have hleads : Route.destination Endpoint.routes saves.method (Target.path saves.target) =
      .entry .saveRule [] := by
    rw [posts.method.1, posts.savesPath]
    exact hsavesTo
  obtain ⟨-, -, hstate⟩ := s.respond_of_entry origins around hleads
  have hstore : saved.2.store = (Endpoint.save around saves s).2.store := by
    change (s.respond origins around saves).2.store = _
    rw [hstate]
    rfl
  have hcode : saved.1.code? = (Endpoint.save around saves s).1.code? :=
    Response.code?_congr hbody
  have hcode' : created.code? = (Endpoint.create creates s').1.code? :=
    Response.code?_congr hbody'
  change saved.1.status = (Endpoint.save around saves s).1.status at hstatus
  change saved.1.body = (Endpoint.save around saves s).1.body at hbody
  change created.status = (Endpoint.create creates s').1.status at hstatus'
  change created.body = (Endpoint.create creates s').1.body at hbody'
  rw [hstatus, hstatus', hbody, hbody', hcode, hcode', hstore]
  have houtcomes := outcomes_of_run around (sourcePayload_congr posts.headers posts.body) s s'
  generalize (Endpoint.save around saves s).1 = given,
    (Endpoint.save around saves s).2.store = left,
    (Endpoint.create creates s').1 = given' at houtcomes
  cases houtcomes with
  | refused brought => simp [ApiError.status, brought]
  | blank brought =>
    simp [ApiError.status, ApiError.code, ApiError.ofRuleError, brought]
  | notARule brought => simp [ApiError.status, ApiError.ofRuleError, brought]
  | @saved source tree left brought saves compiles =>
    have hleft : left.get? around.ruleId = some ⟨around.ruleId, source, around.now⟩ := by
      rw [Store.save_eq_of_compile compiles] at saves
      cases saves
      rw [Store.get?_insert, if_pos rfl]
    have hcompile : left.compile around.ruleId = .ok tree := by
      rw [Store.compile_eq, hleft]
      exact mapError_eq_ok.2 compiles
    refine ⟨by simp, fun _ => ⟨source, tree, brought, hleft, hcompile, rfl⟩, by simp⟩

/-- The rule `a<'1'` is posted with white space around it, which is stored with it. -/
theorem ServiceState.answer_save_iff_create_spaced :
    let asks (path : String) : Request :=
      ⟨"POST", path, [("content-type", "application/json")],
        "\x7b\"ruleString\":\" a<'1' \"\x7d"⟩
    let saved := fresh.answer .any ⟨"", "x", ⟨0, 0⟩, .zero, .zero⟩ (asks "/rules")
    saved.1.status = 201 ∧ ∃ source tree,
      (Draft.readText (asks "/rules").body.toList).value.Brings source ∧
        saved.2.store.get? "x" = some ⟨"x", source, ⟨0, 0⟩⟩ ∧
          saved.2.store.compile "x" = .ok tree := by
  intro asks saved
  have hsource : sourcePayload (asks "/create_rule") = .ok " a<'1' " := by decide +kernel
  have hcompiled : compile " a<'1' " = .ok (.leaf ⟨"a", .lt, .text "1"⟩) := by decide +kernel
  have hpath (path : String) (h : Target.path path = path) :
      Target.path (asks path).target = path := h
  have hcreates := hpath "/create_rule" (by decide +kernel)
  obtain ⟨hcreated, -⟩ := Endpoint.answer_of_makesTree fresh .any ⟨"", "x", ⟨0, 0⟩, .zero, .zero⟩
    rfl (.create hcreates hsource hcompiled)
  have posts : PostsRule (asks "/rules") (asks "/create_rule") :=
    ⟨⟨rfl, rfl⟩, hpath "/rules" (by decide +kernel), hcreates, rfl, rfl⟩
  obtain ⟨-, hiff, hsaved, -⟩ := answer_save_iff_create posts fresh fresh .any .any
    ⟨"", "x", ⟨0, 0⟩, .zero, .zero⟩ ⟨"", "x", ⟨0, 0⟩, .zero, .zero⟩
  have hstatus : saved.1.status = 201 := hiff.2 hcreated
  obtain ⟨source, tree, hbrings, hget, hcompile, -⟩ := hsaved hstatus
  exact ⟨hstatus, source, tree, hbrings, hget, hcompile⟩

end Rulebook
