import Rulebook.Number.Decimal

/-!
# What the service counts

An event adds one to the counter with its labels, and its seconds, if it has any, to a histogram.
A histogram counts, for each of its bounds, the values up to that bound.
-/

namespace Rulebook

/-- Something that is counted. -/
inductive Event where
  /-- A service was started. -/
  | start (service : String)
  /-- A request was answered. -/
  | request (method path : String) (status : Nat) (seconds : Double)
  /-- A rule was evaluated. -/
  | evaluation (isMatch : Bool) (seconds : Double)
  /-- A rule was compiled. -/
  | compilation (outcome : String)

/-- A counter: the kind of event and the labels that tell events of the kind apart. -/
inductive Counter where
  | starts (service : String)
  | requests (method path : String) (status : Nat)
  | evaluations (isMatch : Bool)
  | compilations (outcome : String)
  deriving DecidableEq, Repr

/-- A histogram of seconds. -/
inductive Histogram where
  | requestSeconds (method path : String) (status : Nat)
  | evaluationSeconds
  deriving DecidableEq, Repr

/-- How many values a histogram has, and how many up to each bound. -/
structure Tally where
  within : List Nat
  count : Nat
  deriving DecidableEq, Repr

namespace Tally

/-- The bounds of a histogram of seconds. -/
def bounds : List Double :=
  [(1, -4), (5, -4), (1, -3), (25, -4), (5, -3), (1, -2), (25, -3), (5, -2), (1, -1), (25, -2),
    (5, -1), (1, 0)].map fun (digits, exponent) => (⟨false, digits, exponent⟩ : Decimal).toDouble

/-- No values. -/
def empty : Tally := ⟨bounds.map fun _ => 0, 0⟩

/-- Adds a value. -/
def observe (x : Double) (t : Tally) : Tally :=
  ⟨(bounds.zip t.within).map fun (bound, n) =>
      if (x.compare? bound).any (·.isLE) then n + 1 else n,
    t.count + 1⟩

end Tally

/-- Changes the value under a key, which is `initial` if there is none. -/
def adjust {α β : Type} [DecidableEq α] (key : α) (initial : β) (f : β → β) :
    List (α × β) → List (α × β)
  | [] => [(key, f initial)]
  | (k, v) :: rest => if k = key then (k, f v) :: rest else (k, v) :: adjust key initial f rest

/-- The counters and histograms that have been used. -/
structure Metrics where
  counters : List (Counter × Nat)
  histograms : List (Histogram × Tally)

namespace Metrics

/-- Nothing has been counted. -/
def empty : Metrics := ⟨[], []⟩

/-- Adds one to a counter. -/
def increment (c : Counter) (m : Metrics) : Metrics :=
  { m with counters := adjust c 0 (· + 1) m.counters }

/-- Adds a value to a histogram. -/
def observe (h : Histogram) (seconds : Double) (m : Metrics) : Metrics :=
  { m with histograms := adjust h .empty (·.observe seconds) m.histograms }

/-- Counts an event. -/
def record : Event → Metrics → Metrics
  | .start service, m => m.increment (.starts service)
  | .request method path status seconds, m =>
    (m.increment (.requests method path status)).observe
      (.requestSeconds method path status) seconds
  | .evaluation isMatch seconds, m =>
    (m.increment (.evaluations isMatch)).observe .evaluationSeconds seconds
  | .compilation outcome, m => m.increment (.compilations outcome)

/-- The value of a counter. A counter that is exported has 64 bits and starts anew behind them; here
it has no greatest value. -/
def count (c : Counter) (m : Metrics) : Nat := (m.counters.lookup c).getD 0

end Metrics

end Rulebook
