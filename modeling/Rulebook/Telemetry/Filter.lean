import Rulebook.Telemetry.Directive

/-!
# Log filters

A filter is a list of directives, the more specific ones first. Those that can be decided before
anything is logged are kept apart from those that name a span or a field; one that names a field
without its value is among both.
-/

namespace Rulebook

/-- The directives of a log filter, and the most verbose level of all that were given. -/
structure Filter where
  statics : List Directive
  dynamics : List Directive
  most : Level
  deriving DecidableEq

namespace Filter

/-- The filter without directives. -/
def empty : Filter := ⟨[], [], .off⟩

/-- Adds a directive. -/
def add (f : Filter) (d : Directive) : Filter where
  statics := if d.isStatic then d.insert f.statics else f.statics
  dynamics := if d.isDynamic then d.insert f.dynamics else f.dynamics
  most := f.most.max d.level

/-- The most verbose level that the filter lets through. Where values of fields are compared, which
are known only later, that is everything. -/
def maxLevel (f : Filter) : Level := if f.dynamics.any (·.testsValue) then .trace else f.most

/-- The items between commas, without the empty ones. -/
def items (s : String) : List (List Char) := (Text.split ',' s.toList).filter (!·.isEmpty)

/-- The filter that a text denotes. -/
def read? (s : String) : Option Filter :=
  ((items s).mapM Directive.read?).map (·.foldl add empty)

/-- The text of a filter. -/
def text (f : Filter) : String := ",".intercalate ((f.statics ++ f.dynamics).map (·.text))

/-- The filter to use: that of the environment, if it is given and valid, else that of the
settings, else the one that informs. -/
def choose (environment : Option String) (configured : String) : Filter :=
  ((environment.bind read?).or (read? configured)).getD (empty.add (.bare .info))

end Filter

end Rulebook
