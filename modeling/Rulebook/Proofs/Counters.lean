import Mathlib.Algebra.Ring.Nat
import Rulebook.Proofs.Visits

/-!
# What the counters tell

The counters of a service say of its exchanges what can be read off the requests and the responses
alone (`ServiceState.counters_after`). Counting happens in two places: at the endpoints, which count
what they compile and evaluate, and around them, where every request is counted with the status of
its answer. The list of ways in which a request can end at an endpoint says for each of them what is
counted and what is answered, so each counter is compared with the responses way by way; the rest is
one induction on the visits (`ServiceState.tally_after`).
-/

namespace Rulebook

/-! ## Counting an event -/

/-- The counter to which an event adds. -/
def Event.counter : Event → Counter
  | .start service => .starts service
  | .request method path status _ => .requests method path status
  | .evaluation isMatch _ => .evaluations isMatch
  | .compilation outcome => .compilations outcome

/-- Whether a counter counts requests. -/
def Counter.isRequests : Counter → Bool
  | .requests _ _ _ => true
  | _ => false

/-- The value under a key after the value under some key has changed. -/
theorem lookup_adjust {α β : Type} [DecidableEq α] (key k : α) (initial : β) (f : β → β)
    (xs : List (α × β)) :
    (adjust key initial f xs).lookup k =
      if k = key then some (f ((xs.lookup key).getD initial)) else xs.lookup k := by
  induction xs with
  | nil => by_cases h : k = key <;> simp [adjust, h]
  | cons x xs ih =>
    obtain ⟨k', v⟩ := x
    rw [adjust]
    by_cases hkey : k' = key
    · subst hkey
      by_cases h : k = k' <;> simp [List.lookup_cons, h, beq_eq_false_iff_ne.2]
    · have hkey' : (key == k') = false := beq_eq_false_iff_ne.2 (Ne.symm hkey)
      rw [if_neg hkey, List.lookup_cons, List.lookup_cons, ih, List.lookup_cons, hkey']
      by_cases h : k = k'
      · subst h
        simp [hkey]
      · simp [beq_eq_false_iff_ne.2 h]

namespace Metrics

/-- The sum of the counters of some kind. -/
def total (kind : Counter → Bool) (m : Metrics) : Nat :=
  ((m.counters.filter fun c => kind c.1).map (·.2)).sum

/-- An event changes the counters in one place. -/
theorem counters_record (event : Event) (m : Metrics) :
    (m.record event).counters = adjust event.counter 0 (· + 1) m.counters := by
  cases event <;> rfl

/-- An event adds one to its counter, and nothing to the others. -/
theorem count_record (event : Event) (m : Metrics) (c : Counter) :
    (m.record event).count c = m.count c + if event.counter = c then 1 else 0 := by
  rw [count, count, counters_record, lookup_adjust]
  by_cases h : event.counter = c
  · simp [h]
  · simp [h, Ne.symm h]

/-- An event adds one to the sum of the counters of its kind. -/
theorem total_record (kind : Counter → Bool) (event : Event) (m : Metrics) :
    (m.record event).total kind = m.total kind + if kind event.counter then 1 else 0 := by
  rw [total, total, counters_record]
  generalize m.counters = xs
  induction xs with
  | nil => cases h : kind event.counter <;> simp [adjust, h]
  | cons x xs ih =>
    rw [adjust]
    split
    · next heq =>
      cases h : kind event.counter <;> simp [heq, h]
      omega
    · -- The event adds to a later entry, or to a new one at the end.
      cases h : kind x.1 <;> simp [h, ih]
      omega

end Metrics

/-! ## What is counted and what is answered -/

/-- The code of the error that a response tells. -/
def Response.code? (r : Response) : Option String := (r.body.value.get? "code").bind Json.string?

/-- The code that is told stands in the body. -/
theorem Response.code?_congr {r r' : Response} (body : r.body = r'.body) : r.code? = r'.code? := by
  rw [code?, code?, body]

/-- The result of an evaluation that a response tells. -/
def Response.result? (r : Response) : Option Bool := (r.body.value.get? "result").bind Json.bool?

/-- An error is answered with its code. -/
@[simp]
theorem ApiError.code?_response (e : ApiError) : e.response.code? = some e.code := rfl

@[simp]
theorem ApiError.status_response (e : ApiError) : e.response.status = e.status := rfl

namespace Endpoint

/-- What is counted at an endpoint is what is answered: a result of an evaluation, a rule that has
been saved or a tree that has been made, a text that is not a rule, and a blank rule that was to be
saved. -/
theorem Does.counter_iff {around : Surroundings} {request : Request} {store left : Store}
    {ps : List String} {e : Endpoint} {response : Response} {event : Option Event}
    (h : Does around request store ps e response event left) :
    (∀ isMatch, event.map Event.counter = some (.evaluations isMatch) ↔
      e = .evaluate ∧ response.status = 200 ∧ response.result? = some isMatch) ∧
    (event.map Event.counter = some (.compilations "success") ↔
      e = .saveRule ∧ response.status = 201 ∨
        (e = .createRule ∨ e = .combineRules) ∧ response.status = 200) ∧
    (event.map Event.counter = some (.compilations "syntax_error") ↔
      response.code? = some "RULE_SYNTAX_ERROR") ∧
    (event.map Event.counter = some (.compilations "empty") ↔
      e = .saveRule ∧ request.bringsBlankRule = true) ∧
    ∀ c, event.map Event.counter = some c →
      c.isRequests = false ∧ c ≠ .compilations "error" := by
  cases h with
  | index | health | listed | found | deleted =>
    simp [Response.code?, Response.result?, StoredRule.toJson, Json.member?, List.lookup_cons]
  | unreadable byId => rcases byId with rfl | rfl <;> simp [Response.code?]
  | missed byId => rcases byId with rfl | rfl <;> simp [ApiError.code]
  | refused posted reason filled =>
    obtain ⟨text, rfl | rfl⟩ := reason <;> rcases posted with rfl | rfl | rfl | rfl <;>
      simp [ApiError.status, ApiError.code, filled]
  | blank brought =>
    simp [Event.counter, Counter.isRequests, ApiError.status, ApiError.code, brought]
  | notARule compiles filled =>
    rcases compiles with rfl | rfl | rfl <;>
      simp [Event.counter, Counter.isRequests, ApiError.status, ApiError.code, filled]
  | saved brought saves =>
    simp [Event.counter, Counter.isRequests, Response.code?, StoredRule.toJson, Json.member?,
      List.lookup_cons, brought]
  | compiled tree compiles =>
    rcases compiles with rfl | rfl <;>
      simp [Event.counter, Counter.isRequests, Response.code?, treeJson, Json.member?,
        List.lookup_cons]
  | evaluated isMatch traced trace =>
    cases traced <;>
      simp [Event.counter, Counter.isRequests, Response.code?, Response.result?, Json.member?,
        List.lookup_cons]
  | failed => simp [ApiError.ofFailedTask, ApiError.status, ApiError.code]

/-- Nothing is counted at an endpoint for `GET`. -/
theorem Does.event_eq_none {around : Surroundings} {request : Request} {store left : Store}
    {ps : List String} {e : Endpoint} {response : Response} {event : Option Event}
    (h : Does around request store ps e response event left) (shows : e.method = "GET") :
    event = none := by
  cases h with
  | notARule compiles => rcases compiles with rfl | rfl | rfl <;> simp [method] at shows
  | compiled tree compiles => rcases compiles with rfl | rfl <;> simp [method] at shows
  | blank | saved | evaluated => simp [method] at shows
  | _ => rfl

end Endpoint

namespace Exchange

/-- What is counted beside a request is what its exchange tells: an evaluation with its result, a
rule that has been saved or a tree that has been made, an answer with the code of a text that is not
a rule, and a blank rule that was to be saved. -/
structure Reflects (x : Exchange) (counter? : Option Counter) : Prop where
  evaluation : ∀ isMatch, counter? = some (.evaluations isMatch) ↔
    x.answers "POST" "/evaluate_rule" 200 = true ∧ x.response.result? = some isMatch
  success : counter? = some (.compilations "success") ↔
    x.answers "POST" "/rules" 201 = true ∨ x.answers "POST" "/create_rule" 200 = true ∨
      x.answers "POST" "/combine_rules" 200 = true
  syntaxError : counter? = some (.compilations "syntax_error") ↔
    x.response.code? = some "RULE_SYNTAX_ERROR"
  empty : counter? = some (.compilations "empty") ↔
    x.asks "POST" "/rules" = true ∧ x.request.bringsBlankRule = true
  other : ∀ c, counter? = some c → c.isRequests = false ∧ c ≠ .compilations "error"

/-- What is counted beside a request is what its exchange tells. -/
theorem Arises.reflects {x : Exchange} {around : Surroundings} {store left : Store}
    {event : Option Event} (h : x.Arises around store event left) :
    x.Reflects (event.map Event.counter) := by
  have hevaluate : x.asks "POST" "/evaluate_rule" = decide (x.endpoint? = some .evaluate) :=
    x.asks_eq .evaluate (by decide)
  have hsave : x.asks "POST" "/rules" = decide (x.endpoint? = some .saveRule) :=
    x.asks_eq .saveRule (by decide)
  have hcreate : x.asks "POST" "/create_rule" = decide (x.endpoint? = some .createRule) :=
    x.asks_eq .createRule (by decide)
  have hcombine : x.asks "POST" "/combine_rules" = decide (x.endpoint? = some .combineRules) :=
    x.asks_eq .combineRules (by decide)
  cases h with
  | astray nowhere empty =>
    constructor <;>
      simp [answers, hevaluate, hsave, hcreate, hcombine, nowhere, Response.code?, empty]
  | @led e ps given _ _ leads does status body =>
    simp only [leads, Option.some.injEq] at hevaluate hsave hcreate hcombine
    rcases body with body | ⟨hshows, hempty⟩
    · have hcode : x.response.code? = given.code? := by rw [Response.code?, body, Response.code?]
      have hresult : x.response.result? = given.result? := by
        rw [Response.result?, body, Response.result?]
      obtain ⟨hevaluation, hsuccess, hsyntax, hblank, hother⟩ := does.counter_iff
      constructor
      · simpa [answers, hevaluate, hresult, status, and_assoc] using hevaluation
      · simpa [answers, hsave, hcreate, hcombine, status, or_and_right] using hsuccess
      · rw [hcode]
        exact hsyntax
      · simpa [hsave] using hblank
      · exact hother
    · -- Where a `GET` goes nothing is counted, and without a body nothing is told.
      have hposted (e' : Endpoint) (posted : e'.method ≠ "GET") : e ≠ e' := fun h =>
        posted (h ▸ hshows)
      constructor <;>
        simp [answers, hevaluate, hsave, hcreate, hcombine, does.event_eq_none hshows,
          Response.code?, hempty, hposted .evaluate (by decide), hposted .saveRule (by decide),
          hposted .createRule (by decide), hposted .combineRules (by decide)]

end Exchange

namespace ServiceState

/-! ## All visits -/

variable (origins : Origins)

/-- What an event adds by its counter, a visit adds by that of its request and by that of the event
that is counted beside it, if any. -/
theorem exists_tally_next (f : Metrics → Nat) (weight : Counter → Nat)
    (adds : ∀ event m, f (Metrics.record event m) = f m + weight event.counter)
    (s : ServiceState) (v : Visit) :
    let x := s.exchange origins v
    ∃ event left, x.Arises v.around s.store event left ∧
      f (s.next origins v).metrics = f s.metrics + (event.map Event.counter).elim 0 weight +
        weight (.requests x.request.method x.label x.response.status) := by
  intro x
  obtain ⟨event, left, harises, hnext⟩ := s.exists_arises origins v
  refine ⟨event, left, harises, ?_⟩
  rw [hnext, adds]
  cases event with
  | none => rfl
  | some event =>
    simp only [Option.elim_some, Option.map_some, adds]
    rfl

/-- What only the counters of requests add to, a visit adds by that of its request. -/
theorem tally_next (f : Metrics → Nat) (weight : Counter → Nat)
    (adds : ∀ event m, f (Metrics.record event m) = f m + weight event.counter)
    (only : ∀ c, c.isRequests = false → weight c = 0) (s : ServiceState) (v : Visit) :
    let x := s.exchange origins v
    f (s.next origins v).metrics =
      f s.metrics + weight (.requests x.request.method x.label x.response.status) := by
  intro x
  obtain ⟨event, left, harises, hnext⟩ := exists_tally_next origins f weight adds s v
  have hbeside : (event.map Event.counter).elim 0 weight = 0 := by
    cases hevent : event.map Event.counter with
    | none => rfl
    | some c => exact only c (harises.reflects.other c hevent).1
  rw [hnext, hbeside, Nat.add_zero]

/-- What every visit adds one to if its exchange is of some kind, all visits add the number of such
exchanges to. -/
theorem tally_after (f : Metrics → Nat) (p : Exchange → Bool)
    (step : ∀ s v, f (next origins s v).metrics =
      f s.metrics + if p (s.exchange origins v) then 1 else 0)
    (s : ServiceState) (visits : List Visit) :
    f (s.after origins visits).metrics = f s.metrics + (s.exchanges origins visits).countP p := by
  -- For all states, since the later visits start from the one that the first leaves.
  induction visits generalizing s with
  | nil => rfl
  | cons v visits ih =>
    change f ((s.next origins v).after origins visits).metrics = _
    rw [ih, step, exchanges, List.countP_cons]
    omega

/-- A counter that is added to beside requests counts the exchanges that tell so. -/
theorem count_after {c : Counter} (p : Exchange → Bool) (beside : c.isRequests = false)
    (tells : ∀ {x counter?}, x.Reflects counter? → (counter? = some c ↔ p x = true))
    (visits : List Visit) :
    (fresh.after origins visits).metrics.count c = (fresh.exchanges origins visits).countP p := by
  refine (tally_after origins _ p (fun s v => ?_) fresh visits).trans (Nat.zero_add _)
  obtain ⟨event, left, harises, hnext⟩ := exists_tally_next origins (Metrics.count c)
    (fun c' => if c' = c then 1 else 0) (fun event m => Metrics.count_record event m c) s v
  have hrequest : Counter.requests (s.exchange origins v).request.method
      (s.exchange origins v).label (s.exchange origins v).response.status ≠ c := by
    rintro rfl
    cases beside
  have htells := tells harises.reflects
  rw [hnext, if_neg hrequest, Nat.add_zero]
  -- The event adds one to the counter if it is an event of the counter, and nothing otherwise.
  cases hevent : event.map Event.counter with
  | none => simp [← htells, hevent]
  | some c' => simp [← htells, hevent]

/-- What is counted of two kinds that exclude each other is counted of one or of the other. -/
theorem countP_or {p q : Exchange → Bool} (apart : ∀ x, p x = true → q x = false)
    (xs : List Exchange) : xs.countP (fun x => p x || q x) = xs.countP p + xs.countP q := by
  induction xs with
  | nil => rfl
  | cons x xs ih =>
    rw [List.countP_cons, List.countP_cons, List.countP_cons, ih]
    cases hp : p x with
    | true => simp [apart x hp]; omega
    | false => simp; omega

/-- Requests are counted by method, by what their path is called and by the status of the answer. -/
theorem count_requests_after (method path : String) (status : Nat) (visits : List Visit) :
    (fresh.after origins visits).metrics.count (.requests method path status) =
      (fresh.exchanges origins visits).countP (·.answers method path status) := by
  refine (tally_after origins _ (·.answers method path status) (fun s v => ?_) fresh visits).trans
    (Nat.zero_add _)
  rw [tally_next origins (Metrics.count (.requests method path status))
    (fun c => if c = .requests method path status then 1 else 0)
    (fun event m => Metrics.count_record event m _) (fun c hc => if_neg ?_) s v]
  · simp [Exchange.answers, Exchange.asks, and_assoc]
  · rintro rfl
    cases hc

/-- Every request is counted. -/
theorem total_requests_after (visits : List Visit) :
    (fresh.after origins visits).metrics.total Counter.isRequests = visits.length := by
  refine (tally_after origins (Metrics.total Counter.isRequests) (fun _ => true) (fun s v => ?_)
    fresh visits).trans ?_
  · exact tally_next origins (Metrics.total Counter.isRequests)
      (fun c => if c.isRequests then 1 else 0) (Metrics.total_record Counter.isRequests)
      (fun c hc => if_neg (Bool.not_eq_true _ ▸ hc)) s v
  · rw [List.countP_true, length_exchanges]
    exact Nat.zero_add _

/-- A compilation with success is a rule that has been saved, or a tree that has been made of one
rule or of several. -/
theorem count_success_after (visits : List Visit) :
    (fresh.after origins visits).metrics.count (.compilations "success") =
      (fresh.exchanges origins visits).countP (·.answers "POST" "/rules" 201) +
        (fresh.exchanges origins visits).countP (·.answers "POST" "/create_rule" 200) +
          (fresh.exchanges origins visits).countP (·.answers "POST" "/combine_rules" 200) := by
  have hsuccess : (fresh.after origins visits).metrics.count (.compilations "success") =
      (fresh.exchanges origins visits).countP fun x =>
        (x.answers "POST" "/rules" 201 || x.answers "POST" "/create_rule" 200) ||
          x.answers "POST" "/combine_rules" 200 := by
    refine count_after origins _ rfl (fun h => ?_) visits
    rw [h.success, Bool.or_eq_true, Bool.or_eq_true, or_assoc]
  -- The path of a request is called by one name only.
  have hapart {path path' : String} {status status' : Nat} (hne : path ≠ path') (x : Exchange)
      (h : x.answers "POST" path status = true) : x.answers "POST" path' status' = false := by
    simp only [Exchange.answers, Exchange.asks, Bool.and_eq_true, decide_eq_true_eq] at h
    simp [Exchange.answers, Exchange.asks, h.1.2, hne]
  rw [hsuccess, countP_or, countP_or]
  · exact hapart (by decide)
  · intro x h
    rcases Bool.or_eq_true_iff.1 h with h | h
    · exact hapart (by decide) x h
    · exact hapart (by decide) x h

/-- The counters of a service tell what its exchanges tell. Requests are counted by method, by the
template of their route, or by their path if no route has it, and by the status of the answer;
evaluations by the result that is answered; and compilations by what came of them: a rule that has
been saved, a tree that has been made of one rule or of several, an answer with the code of a text
that is not a rule, or a rule to be saved that is blank but not empty. -/
theorem counters_after (visits : List Visit) :
    let xs := fresh.exchanges origins visits
    let m := (fresh.after origins visits).metrics
    (∀ method path status,
      m.count (.requests method path status) = xs.countP (·.answers method path status)) ∧
    m.total Counter.isRequests = visits.length ∧
    (∀ isMatch, m.count (.evaluations isMatch) =
      xs.countP fun x =>
        x.answers "POST" "/evaluate_rule" 200 && x.response.result? = some isMatch) ∧
    m.count (.compilations "success") =
      xs.countP (·.answers "POST" "/rules" 201) + xs.countP (·.answers "POST" "/create_rule" 200) +
        xs.countP (·.answers "POST" "/combine_rules" 200) ∧
    m.count (.compilations "syntax_error") =
      xs.countP (fun x => x.response.code? = some "RULE_SYNTAX_ERROR") ∧
    m.count (.compilations "empty") =
      xs.countP (fun x => x.asks "POST" "/rules" && x.request.bringsBlankRule) ∧
    m.count (.compilations "error") = 0 := by
  intro xs m
  refine ⟨fun method path status => count_requests_after origins method path status visits,
    total_requests_after origins visits, ?_, count_success_after origins visits, ?_, ?_, ?_⟩
  · intro isMatch
    refine count_after origins _ rfl (fun h => ?_) visits
    rw [h.evaluation, Bool.and_eq_true, decide_eq_true_eq]
  · refine count_after origins _ rfl (fun h => ?_) visits
    rw [h.syntaxError, decide_eq_true_eq]
  · refine count_after origins _ rfl (fun h => ?_) visits
    rw [h.empty, Bool.and_eq_true]
  · refine (count_after origins (fun _ => false) rfl (fun h => ?_) visits).trans ?_
    · simpa using fun hc => (h.other _ hc).2 rfl
    · simp

end ServiceState

end Rulebook
