import Rulebook.Proofs.Handling
import Rulebook.Proofs.Routing
import Rulebook.Settings.Load

/-!
# Which origins are allowed

What an answer tells a browser of allowed origins comes from the policy of the service alone,
whatever the request leads to: an endpoint says nothing of origins
(`ServiceState.allowedOrigins_answer`). A service with a list of origins names the origin of a
request if it is on the list and a header can hold it, and a service with an empty list allows any.

An asterisk is meant to open a list, and does not. A list of a file that has one is no policy, and a
text of origins leaves it out, so that the text `http://a.com,*` allows `http://a.com` alone. Lists
without an asterisk allow what they are meant to (`ServiceState.policy_of_origins`).
-/

namespace Rulebook

/-! ## What a message says of origins -/

/-- The origins that the headers of an answer name as allowed. -/
def Headers.allowedOrigins (hs : Headers) : List String :=
  (hs.filter fun h => h.1 = "access-control-allow-origin").map (·.2)

/-- Headers that are added name what they name themselves. -/
theorem Response.allowedOrigins_withHeaders (r : Response) (hs : Headers) :
    (r.withHeaders hs).headers.allowedOrigins =
      r.headers.allowedOrigins ++ Headers.allowedOrigins hs := by
  simp [Response.withHeaders, Headers.allowedOrigins]

/-- A policy names the one origin that it allows, if any. -/
theorem Origins.allowedOrigins_headers (policy : Origins) (request : Request) :
    (policy.headers request).allowedOrigins = (policy.allowed? request).toList := by
  unfold Origins.headers Headers.allowedOrigins
  cases policy.allowed? request <;> simp

/-- An endpoint says nothing of origins. -/
theorem Endpoint.allowedOrigins_run (around : Surroundings) (request : Request) (s : ServiceState)
    (e : Endpoint) (ps : List String) :
    (e.run around request s ps).1.headers.allowedOrigins = [] := by
  obtain ⟨event, left, does, -⟩ := ends_run around request s e ps
  generalize (e.run around request s ps).1 = given at does ⊢
  cases does <;> rfl

namespace ServiceState

variable (s : ServiceState) (origins : Origins) (around : Surroundings) (request : Request)

/-- The answer to a browser that asks beforehand has no origin of its own. -/
theorem allowedOrigins_preflight : (preflight request).headers.allowedOrigins = [] := by
  unfold preflight
  split <;> rfl

/-- Without the headers of the policy nothing is said of origins, whatever the request leads to. -/
theorem allowedOrigins_route :
    (Route.answer Endpoint.routes request s
      (Endpoint.run around request s)).1.headers.allowedOrigins = [] := by
  unfold Route.answer
  split
  · next e ps _ =>
    have hrun := Endpoint.allowedOrigins_run around request s e ps
    dsimp only
    split
    · exact hrun
    · exact hrun
  · rfl
  · rfl

/-- An answer names the origin that the policy of the service allows for the request, and no
other. -/
theorem allowedOrigins_answer :
    (s.answer origins around request).1.headers.allowedOrigins =
      (origins.allowed? request).toList := by
  have hrespond : (s.respond origins around request).1.headers.allowedOrigins =
      (origins.allowed? request).toList := by
    unfold respond
    dsimp only
    rw [Response.allowedOrigins_withHeaders, Origins.allowedOrigins_headers]
    split
    · rw [allowedOrigins_preflight, List.nil_append]
    · rw [Response.allowedOrigins_withHeaders, allowedOrigins_route]
      rfl
  have hid : (s.answer origins around request).1 = (s.respond origins around request).1.withHeaders
      [(requestIdHeader, requestId around request)] := rfl
  rw [hid, Response.allowedOrigins_withHeaders, hrespond]
  exact List.append_nil _

end ServiceState

namespace Origins

/-- A list is no policy if and only if the asterisk is on it. -/
theorem ofList?_eq_none_iff (list : List String) : ofList? list = none ↔ "*" ∈ list := by
  have hvalid : isHeaderChar '*' = true := by decide
  have hfiltered : "*" ∈ list.filter (fun o => o.toList.all isHeaderChar) ↔ "*" ∈ list := by
    simp [List.mem_filter, hvalid]
  unfold ofList?
  split
  · next hempty =>
    rw [List.isEmpty_iff.1 hempty]
    simp
  · rw [← hfiltered]
    simp

/-- What a policy allows, told of the list that it is made of. -/
theorem allowed?_of_ofList? {list : List String} {policy : Origins}
    (h : ofList? list = some policy) (request : Request) :
    policy.allowed? request = if list = [] then some "*" else
      (request.headers.get? "origin").filter fun o =>
        list.contains o && o.toList.all isHeaderChar := by
  unfold ofList? at h
  split at h
  · next hempty =>
    cases h
    rw [if_pos (List.isEmpty_iff.1 hempty)]
    rfl
  · next hfilled =>
    dsimp only at h
    split at h
    · cases h
    · cases h
      rw [if_neg (mt List.isEmpty_iff.2 hfilled), allowed?]
      congr 1
      funext o
      rw [Bool.eq_iff_iff]
      simp [List.mem_filter]

end Origins

namespace Settings

/-- The items of a text: its pieces between commas without the white space around them, as far as
something is left. -/
def itemsOf (text : String) : List String :=
  ((Text.split ',' text.toList).map fun piece => String.ofList (Text.trim piece)).filter
    fun item => !item.isEmpty

/-- The origins of a text are its items without the asterisks. -/
theorem originsOf_eq_filter (text : String) : originsOf text = (itemsOf text).filter (· ≠ "*") := by
  unfold originsOf itemsOf
  rw [List.filter_filter]
  refine List.filter_congr fun item _ => ?_
  rw [Bool.and_comm]

/-- The text of the variable decides on the origins, whatever the files say. -/
theorem origins_of_load {service : String} {files : Setting.Folder} {vars : List (String × String)}
    {settings : Settings} {text : String} (loads : load service files vars = .ok settings)
    (isSet : vars.lookup "RULE_CORS_ORIGINS" = some text) : settings.origins = originsOf text := by
  unfold load at loads
  simp only [bind, Except.bind] at loads
  split at loads
  · cases loads
  · split at loads
    · cases loads
    · cases loads
      simp [isSet]

end Settings

/-- What a list of items is to allow for a request, with the asterisk for no restriction: any origin
if there is no item or the asterisk is one, and otherwise the origin of the request if it is an
item, as it is written, and a header can hold it. -/
def Origins.meant (items : List String) (request : Request) : List String :=
  if items = [] ∨ "*" ∈ items then ["*"]
  else ((request.headers.get? "origin").filter fun o =>
    items.contains o && o.toList.all isHeaderChar).toList

/-- Without its asterisks a list is to allow the same, for every request, if and only if none of
them stands beside other items. -/
theorem Origins.forall_meant_filter_iff (items : List String) :
    (∀ request, meant (items.filter (· ≠ "*")) request = meant items request) ↔
      ("*" ∈ items → ∀ item ∈ items, item = "*") := by
  have hplain : "*" ∉ items.filter (· ≠ "*") := by simp
  by_cases hasterisk : "*" ∈ items
  · constructor
    · intro hsame _ item hitem
      by_contra hother
      -- For a request without an origin none is to be allowed, as another item is on the list.
      have hnone := hsame ⟨"GET", "/", [], ""⟩
      have hfilled : items.filter (· ≠ "*") ≠ [] :=
        List.ne_nil_of_mem (List.mem_filter.2 ⟨hitem, by simpa using hother⟩)
      rw [meant, if_neg (not_or.2 ⟨hfilled, hplain⟩), meant, if_pos (.inr hasterisk)] at hnone
      cases hnone
    · intro honly request
      have hempty : items.filter (· ≠ "*") = [] := by
        rw [List.filter_eq_nil_iff]
        simpa using honly hasterisk
      rw [meant, if_pos (.inl hempty), meant, if_pos (.inr hasterisk)]
  · have hsame : items.filter (· ≠ "*") = items := by
      rw [List.filter_eq_self]
      intro item hitem
      simpa using ne_of_mem_of_not_mem hitem hasterisk
    rw [hsame]
    exact ⟨fun _ h => absurd h hasterisk, fun _ _ => rfl⟩

/-- A policy made of items allows what the items are to allow. -/
theorem ServiceState.allowedOrigins_of_ofList? {items : List String} {policy : Origins}
    (h : Origins.ofList? items = some policy) (s : ServiceState) (around : Surroundings)
    (request : Request) :
    (s.answer policy around request).1.headers.allowedOrigins = Origins.meant items request := by
  have hplain : "*" ∉ items := fun hmem => by
    rw [(Origins.ofList?_eq_none_iff items).2 hmem] at h
    cases h
  rw [s.allowedOrigins_answer, Origins.allowed?_of_ofList? h, Origins.meant]
  by_cases hempty : items = []
  · simp [hempty]
  · simp [hempty, hplain]

/-- What a service allows for a list of items. As the list of a file, the items are no policy if the
asterisk is one of them, and otherwise they allow what they are to allow. As the items of the text
of the variable they are always a policy; it allows what they are to allow, for every request, if
and only if the asterisk is not an item beside others. -/
theorem ServiceState.policy_of_origins (items : List String) :
    (Origins.ofList? items = none ↔ "*" ∈ items) ∧
      (∀ policy, Origins.ofList? items = some policy →
        ∀ (s : ServiceState) (around : Surroundings) (request : Request),
          (s.answer policy around request).1.headers.allowedOrigins =
            Origins.meant items request) ∧
      ∀ service files vars settings text, Settings.load service files vars = .ok settings →
        vars.lookup "RULE_CORS_ORIGINS" = some text → Settings.itemsOf text = items →
          ∃ policy, Origins.ofList? settings.origins = some policy ∧
            ((∀ (s : ServiceState) (around : Surroundings) (request : Request),
                (s.answer policy around request).1.headers.allowedOrigins =
                  Origins.meant items request) ↔
              ("*" ∈ items → ∀ item ∈ items, item = "*")) := by
  refine ⟨Origins.ofList?_eq_none_iff items,
    fun policy hpolicy => allowedOrigins_of_ofList? hpolicy, ?_⟩
  rintro service files vars settings text loads isSet rfl
  have horigins := (Settings.origins_of_load loads isSet).trans (Settings.originsOf_eq_filter text)
  have hplain : "*" ∉ settings.origins := by simp [horigins]
  obtain ⟨policy, hpolicy⟩ := Option.ne_none_iff_exists'.1
    (mt (Origins.ofList?_eq_none_iff settings.origins).1 hplain)
  refine ⟨policy, hpolicy, ?_⟩
  rw [← Origins.forall_meant_filter_iff, ← horigins]
  constructor
  · intro hmeant request
    have hanswer := hmeant fresh ⟨"", "", ⟨0, 0⟩, .zero, .zero⟩ request
    rwa [allowedOrigins_of_ofList? hpolicy] at hanswer
  · intro hsame s around request
    rw [allowedOrigins_of_ofList? hpolicy, hsame]

/-- With the text `http://a.com, *` in the variable some request is not allowed what is meant, and
the items themselves are no policy. -/
theorem ServiceState.policy_of_origins_asterisk :
    Origins.ofList? ["http://a.com", "*"] = none ∧
      ∃ settings policy, Settings.load "rules" [] [("RULE_CORS_ORIGINS", "http://a.com, *")] =
          .ok settings ∧ Origins.ofList? settings.origins = some policy ∧
        ¬∀ (s : ServiceState) (around : Surroundings) (request : Request),
          (s.answer policy around request).1.headers.allowedOrigins =
            Origins.meant ["http://a.com", "*"] request := by
  obtain ⟨hfile, -, htext⟩ := policy_of_origins ["http://a.com", "*"]
  have hloads :
      (Settings.load "rules" [] [("RULE_CORS_ORIGINS", "http://a.com, *")]).isOk = true := by
    decide +kernel
  have hitems : Settings.itemsOf "http://a.com, *" = ["http://a.com", "*"] := by decide +kernel
  refine ⟨hfile.2 (by simp), ?_⟩
  cases hsettings : Settings.load "rules" [] [("RULE_CORS_ORIGINS", "http://a.com, *")] with
  | error e =>
    rw [hsettings] at hloads
    cases hloads
  | ok settings =>
    obtain ⟨policy, hpolicy, hiff⟩ := htext _ _ _ _ _ hsettings rfl hitems
    refine ⟨settings, policy, rfl, hpolicy, fun hmeant => ?_⟩
    have honly := hiff.1 hmeant (by simp) "http://a.com" (by simp)
    revert honly
    decide

end Rulebook
