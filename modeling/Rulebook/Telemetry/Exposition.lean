import Rulebook.Number.Layout
import Rulebook.Telemetry.Metrics

/-!
# Metrics as text

A sample is a value with a name and labels. A counter is one sample; a histogram is one for each
bound, one for all values, and one for their number. A family of samples is described by the lines
that say what it is and of which type.
-/

namespace Rulebook

/-- The samples of one meaning. -/
structure Family where
  name : String
  help : Option String
  type : String
  deriving DecidableEq, Repr

namespace Family

/-- The lines that describe a family. -/
def lines (f : Family) : List String :=
  (f.help.map fun text => s!"# HELP {f.name} {text}").toList ++ [s!"# TYPE {f.name} {f.type}"]

end Family

/-- The name and value of a label. -/
abbrev Label := String × String

namespace Label

/-- The text of a label's value, whose backslash is held back if `held`. Quotes and line feeds are
escaped; a backslash is escaped unless it escapes a backslash or a quote that follows it. -/
def valueChars : (held : Bool) → List Char → List Char
  | held, [] => if held then ['\\', '\\'] else []
  | held, '\n' :: cs => '\\' :: 'n' :: valueChars held cs
  | _, '"' :: cs => '\\' :: '"' :: valueChars false cs
  | true, '\\' :: cs => '\\' :: '\\' :: valueChars false cs
  | false, '\\' :: cs => valueChars true cs
  | true, c :: cs => '\\' :: '\\' :: c :: valueChars false cs
  | false, c :: cs => c :: valueChars false cs

/-- The text of a label. -/
def text (l : Label) : String := s!"{l.1}=\"{String.ofList (valueChars false l.2.toList)}\""

/-- The text of a sample's labels, in their order. -/
def listText : List Label → String
  | [] => ""
  | labels => "\x7b" ++ ",".intercalate (labels.map text) ++ "\x7d"

end Label

/-- A value with a name and labels. -/
structure Sample where
  name : String
  labels : List Label
  value : Nat
  deriving DecidableEq, Repr

namespace Sample

/-- What a sample is told apart by. -/
def key (s : Sample) : String := s.name ++ Label.listText s.labels

/-- The line of a sample. -/
def line (s : Sample) : String := s!"{s.key} {s.value}"

end Sample

/-- The labels of a request. -/
def requestLabels (method path : String) (status : Nat) : List Label :=
  [("method", method), ("path", path), ("status", toString status)]

namespace Counter

/-- The family that a counter belongs to. -/
def family : Counter → Family
  | .starts _ => ⟨"service_starts_total", none, "counter"⟩
  | .requests .. => ⟨"http_requests_total", some "Total number of HTTP requests", "counter"⟩
  | .evaluations _ =>
    ⟨"rule_evaluations_total", some "Total number of rule evaluations", "counter"⟩
  | .compilations _ =>
    ⟨"rule_compilations_total", some "Total number of rule compilations by outcome", "counter"⟩

/-- The labels of a counter. -/
def labels : Counter → List Label
  | .starts service => [("service", service)]
  | .requests method path status => requestLabels method path status
  | .evaluations isMatch => [("result", if isMatch then "matched" else "not_matched")]
  | .compilations outcome => [("status", outcome)]

/-- The sample of a counter with its value. -/
def sample (c : Counter) (value : Nat) : Sample := ⟨c.family.name, c.labels, value⟩

end Counter

namespace Histogram

/-- The family that a histogram belongs to. -/
def family : Histogram → Family
  | .requestSeconds .. =>
    ⟨"http_request_duration_seconds", some "HTTP request duration in seconds", "histogram"⟩
  | .evaluationSeconds =>
    ⟨"rule_evaluation_duration_seconds", some "Rule evaluation duration in seconds", "histogram"⟩

/-- The labels of a histogram. -/
def labels : Histogram → List Label
  | .requestSeconds method path status => requestLabels method path status
  | .evaluationSeconds => []

/-- The samples of a histogram, but for the sum of its values. -/
def samples (h : Histogram) (t : Tally) : List Sample :=
  let bucket (bound : String) (n : Nat) : Sample :=
    ⟨h.family.name ++ "_bucket", h.labels ++ [("le", bound)], n⟩
  (Tally.bounds.zip t.within).map (fun (bound, n) => bucket bound.plain n) ++
    [bucket "+Inf" t.count, ⟨h.family.name ++ "_count", h.labels, t.count⟩]

end Histogram

namespace Metrics

/-- The samples of all counters. -/
def counterSamples (m : Metrics) : List Sample := m.counters.map fun (c, n) => c.sample n

/-- The samples of all counters and histograms. -/
def samples (m : Metrics) : List Sample :=
  m.counterSamples ++ m.histograms.flatMap fun (h, t) => h.samples t

/-- The families that samples belong to, each once. -/
def families (m : Metrics) : List Family :=
  (m.counters.map (·.1.family) ++ m.histograms.map (·.1.family)).eraseDups

end Metrics

end Rulebook
