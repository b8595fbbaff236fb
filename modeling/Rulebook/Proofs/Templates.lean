import Rulebook.Service.Endpoint

/-!
# Paths and templates

Two templates that differ in length, or in a part that both write out, have no path in common
(`Template.apart`). Where that is so of all routes, their order does not matter: a path has the
route whose template it fits (`Route.find?_eq_some_iff`), and a request leads to an entry if and
only if the path fits the template and the method is that of the entry
(`Endpoint.destination_eq_entry_iff`).
-/

namespace Rulebook

namespace Template

/-- Whether two templates differ in length or in a part that both write out. -/
def apart : Template → Template → Bool
  | [], [] => false
  | .literal a :: t, .literal b :: u => a ≠ b || apart t u
  | _ :: t, _ :: u => apart t u
  | [], _ :: _ => true
  | _ :: _, [] => true

/-- The first part of a path fits the first part of a template, and the rest fits the rest. -/
theorem exists_of_matchParts?_cons {part : TemplatePart} {t : Template}
    {parts : List (List Char)} {ps : List String}
    (h : matchParts? (part :: t) parts = some ps) :
    ∃ p rest ps', parts = p :: rest ∧ t.matchParts? rest = some ps' ∧
      ∀ text, part = .literal text → text.toList = p := by
  cases parts with
  | nil => cases part <;> cases h
  | cons p rest =>
    cases part with
    | literal text =>
      rw [matchParts?] at h
      split at h
      · next heq =>
        refine ⟨p, rest, ps, rfl, h, ?_⟩
        rintro _ ⟨⟩
        exact heq
      · cases h
    | parameter name =>
      rw [matchParts?] at h
      split at h
      · cases h
      · obtain ⟨ps', hps, -⟩ := Option.map_eq_some_iff.1 h
        exact ⟨p, rest, ps', rfl, hps, nofun⟩

/-- A path whose rest does not fit the rest of a template does not fit the template. -/
theorem matchParts?_cons_eq_none (part : TemplatePart) {t : Template} (p : List Char)
    {rest : List (List Char)} (h : t.matchParts? rest = none) :
    matchParts? (part :: t) (p :: rest) = none := by
  cases part with
  | literal text => rw [matchParts?, h, ite_self]
  | parameter name => rw [matchParts?, h, Option.map_none, ite_self]

/-- The parts of a path fit only one of two templates that are apart. -/
theorem matchParts?_eq_none_of_apart {t u : Template} {parts : List (List Char)}
    {ps : List String} (h : t.apart u = true) (hmatch : t.matchParts? parts = some ps) :
    u.matchParts? parts = none := by
  fun_induction apart t u generalizing parts ps with
  | case1 => cases h
  | case2 a t b u ih =>
    obtain ⟨p, rest, ps', rfl, hrest, hp⟩ := exists_of_matchParts?_cons hmatch
    rw [Bool.or_eq_true, decide_eq_true_eq] at h
    rcases h with hne | h
    · -- The path has the part that the first template writes out.
      have hother : b.toList ≠ p := fun heq =>
        hne (String.toList_inj.1 ((hp a rfl).trans heq.symm))
      rw [matchParts?, if_neg hother]
    · exact matchParts?_cons_eq_none _ p (ih h hrest)
  | case3 part t part' u _ ih =>
    obtain ⟨p, rest, ps', rfl, hrest, -⟩ := exists_of_matchParts?_cons hmatch
    exact matchParts?_cons_eq_none _ p (ih h hrest)
  | case4 part u =>
    cases parts with
    | nil => cases part <;> rfl
    | cons p rest => cases hmatch
  | case5 part t =>
    obtain ⟨p, rest, ps', rfl, -, -⟩ := exists_of_matchParts?_cons hmatch
    rfl

/-- A path fits only one of two templates that are apart. -/
theorem match?_eq_none_of_apart {t u : Template} {path : String} {ps : List String}
    (h : t.apart u = true) (hmatch : t.match? path = some ps) : u.match? path = none := by
  unfold match? at hmatch ⊢
  split at hmatch
  · exact matchParts?_eq_none_of_apart h hmatch
  · cases hmatch

end Template

namespace Route

variable {α : Type} {routes : List (Route α)}

/-- A route with distinct methods has for a method the entry that is listed with it. -/
theorem entry?_eq_some_iff {r : Route α} (distinct : (r.entries.map (·.1)).Nodup)
    {method : String} {value : α} :
    r.entry? method = some value ↔
      (if method = "HEAD" then "GET" else method, value) ∈ r.entries := by
  unfold entry?
  generalize (if method = "HEAD" then "GET" else method) = m
  generalize r.entries = entries at distinct
  induction entries with
  | nil => simp
  | cons entry rest ih =>
    obtain ⟨m', value'⟩ := entry
    obtain ⟨hnew, hrest⟩ := List.nodup_cons.1 distinct
    rw [List.lookup_cons, List.mem_cons, Prod.mk.injEq]
    by_cases h : m = m'
    · subst h
      have hnot : (m, value) ∉ rest := fun hmem =>
        hnew (List.mem_map.2 ⟨_, hmem, rfl⟩)
      simp [hnot, eq_comm]
    · simp [h, beq_eq_false_iff_ne.2 h, ih hrest]

/-- Where no two templates have a path in common, a path has the route whose template it fits. -/
theorem find?_eq_some_iff (apart : routes.Pairwise fun r r' => r.template.apart r'.template)
    {path : String} {r : Route α} {ps : List String} :
    find? routes path = some (r, ps) ↔ r ∈ routes ∧ r.template.match? path = some ps := by
  unfold find?
  induction routes with
  | nil => simp
  | cons first rest ih =>
    obtain ⟨hfirst, hrest⟩ := List.pairwise_cons.1 apart
    rw [List.findSome?_cons]
    cases hmatch : first.template.match? path with
    | none =>
      dsimp only [Option.map_none]
      rw [ih hrest]
      constructor
      · exact fun ⟨hr, hps⟩ => ⟨List.mem_cons_of_mem _ hr, hps⟩
      · rintro ⟨hr, hps⟩
        rcases List.mem_cons.1 hr with rfl | hr
        · cases hmatch.symm.trans hps
        · exact ⟨hr, hps⟩
    | some ps' =>
      dsimp only [Option.map_some]
      constructor
      · rintro ⟨⟩
        exact ⟨List.mem_cons_self, hmatch⟩
      · rintro ⟨hr, hps⟩
        rcases List.mem_cons.1 hr with rfl | hr
        · rw [Option.some.inj (hmatch.symm.trans hps)]
        · -- A later route does not have the path as well.
          cases (Template.match?_eq_none_of_apart (hfirst r hr) hmatch).symm.trans hps

/-- Where no two templates have a path in common, a request leads to an entry of the route whose
template its path fits. -/
theorem destination_eq_entry_iff
    (apart : routes.Pairwise fun r r' => r.template.apart r'.template) {method path : String}
    {value : α} {ps : List String} :
    destination routes method path = .entry value ps ↔
      ∃ r ∈ routes, r.template.match? path = some ps ∧ r.entry? method = some value := by
  constructor
  · intro h
    unfold destination at h
    split at h
    · cases h
    · next r ps' hfind =>
      obtain ⟨hr, hmatch⟩ := (find?_eq_some_iff apart).1 hfind
      split at h
      · next hentry =>
        cases h
        exact ⟨r, hr, hmatch, hentry⟩
      · cases h
  · rintro ⟨r, hr, hmatch, hentry⟩
    have hfind : find? routes path = some (r, ps) := (find?_eq_some_iff apart).2 ⟨hr, hmatch⟩
    simp only [destination, hfind, hentry]

end Route

namespace Endpoint

/-- The method that an endpoint answers. -/
def method : Endpoint → String
  | .index | .health | .listRules | .getRule => "GET"
  | .deleteRule => "DELETE"
  | .evaluate | .saveRule | .createRule | .combineRules => "POST"

/-- The template of the paths of an endpoint. -/
def template : Endpoint → Template
  | .index => [.literal ""]
  | .health => [.literal "health"]
  | .evaluate => [.literal "evaluate_rule"]
  | .listRules | .saveRule => [.literal "rules"]
  | .getRule | .deleteRule => [.literal "rules", .parameter "id"]
  | .createRule => [.literal "create_rule"]
  | .combineRules => [.literal "combine_rules"]

/-- No path fits the templates of two routes. -/
theorem routes_apart : routes.Pairwise fun r r' => r.template.apart r'.template := by decide

/-- Every endpoint has a route. -/
theorem exists_mem_routes (e : Endpoint) : ∃ r ∈ routes, r.template = e.template := by
  cases e <;> decide

/-- A route has an endpoint for a method if and only if template and method are those of the
endpoint. -/
theorem entry?_eq_some_iff {r : Route Endpoint} (hr : r ∈ routes) {method : String}
    {e : Endpoint} :
    r.entry? method = some e ↔
      (if method = "HEAD" then "GET" else method) = e.method ∧ r.template = e.template := by
  have hmethods : ∀ r ∈ routes, (r.entries.map (·.1)).Nodup := by decide
  rw [Route.entry?_eq_some_iff (hmethods r hr)]
  generalize (if method = "HEAD" then "GET" else method) = m
  simp only [routes, List.mem_cons, List.not_mem_nil, or_false] at hr
  rcases hr with rfl | rfl | rfl | rfl | rfl | rfl | rfl <;>
    cases e <;> simp [Endpoint.method, template]

/-- A request leads to an endpoint if and only if it has its method, where `HEAD` counts as `GET`,
and its path fits the template. -/
theorem destination_eq_entry_iff {method path : String} {e : Endpoint} {ps : List String} :
    Route.destination routes method path = .entry e ps ↔
      (if method = "HEAD" then "GET" else method) = e.method ∧
        e.template.match? path = some ps := by
  rw [Route.destination_eq_entry_iff routes_apart]
  constructor
  · rintro ⟨r, hr, hmatch, hentry⟩
    obtain ⟨hmethod, htemplate⟩ := (entry?_eq_some_iff hr).1 hentry
    exact ⟨hmethod, htemplate ▸ hmatch⟩
  · rintro ⟨hmethod, hmatch⟩
    obtain ⟨r, hr, htemplate⟩ := exists_mem_routes e
    exact ⟨r, hr, htemplate ▸ hmatch, (entry?_eq_some_iff hr).2 ⟨hmethod, htemplate⟩⟩

/-- Different routes have templates with different texts. -/
theorem template_eq_of_text_eq {r : Route Endpoint} (hr : r ∈ routes) {e : Endpoint}
    (h : r.template.text = e.template.text) : r.template = e.template := by
  have hinjective : ∀ r ∈ routes, ∀ r' ∈ routes,
      r.template.text = r'.template.text → r.template = r'.template := by decide
  obtain ⟨r', hr', htemplate⟩ := exists_mem_routes e
  rw [← htemplate] at h ⊢
  exact hinjective r hr r' hr' h

/-- A path is labelled with the template of an endpoint if and only if it fits the template: a path
that no route has is no text of a template, for such a text fits the template itself. -/
theorem label_eq_text_iff {path : String} {e : Endpoint} :
    Route.label routes path = e.template.text ↔ ∃ ps, e.template.match? path = some ps := by
  unfold Route.label
  cases hfind : Route.find? routes path with
  | none =>
    have hself : ∃ ps, e.template.match? e.template.text = some ps :=
      Option.isSome_iff_exists.1 (by cases e <;> rfl)
    dsimp only
    constructor
    · rintro rfl
      exact hself
    · rintro ⟨ps, hmatch⟩
      obtain ⟨r, hr, htemplate⟩ := exists_mem_routes e
      have hfound := (Route.find?_eq_some_iff routes_apart).2 ⟨hr, htemplate ▸ hmatch⟩
      cases hfind.symm.trans hfound
  | some found =>
    obtain ⟨r, ps⟩ := found
    obtain ⟨hr, hmatch⟩ := (Route.find?_eq_some_iff routes_apart).1 hfind
    dsimp only
    constructor
    · exact fun h => ⟨ps, template_eq_of_text_eq hr h ▸ hmatch⟩
    · rintro ⟨ps', hmatch'⟩
      obtain ⟨r', hr', htemplate⟩ := exists_mem_routes e
      have hfound := (Route.find?_eq_some_iff routes_apart).2 ⟨hr', htemplate ▸ hmatch'⟩
      cases hfind.symm.trans hfound
      exact congrArg Template.text htemplate

/-- A request leads to an endpoint that is not for `GET` if and only if it has the endpoint's method
and its path is labelled with the endpoint's template. -/
theorem exists_destination_eq_entry_iff {method path : String} {e : Endpoint}
    (posted : e.method ≠ "GET") :
    (∃ ps, Route.destination routes method path = .entry e ps) ↔
      method = e.method ∧ Route.label routes path = e.template.text := by
  have hmethod : (if method = "HEAD" then "GET" else method) = e.method ↔ method = e.method := by
    have hhead : e.method ≠ "HEAD" := by cases e <;> decide
    split
    · next heq => simp [heq, posted.symm, hhead.symm]
    · exact Iff.rfl
  simp only [destination_eq_entry_iff, hmethod, label_eq_text_iff, exists_and_left]

end Endpoint

end Rulebook
