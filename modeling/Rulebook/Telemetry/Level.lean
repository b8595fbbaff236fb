import Rulebook.Number.Decimal

/-!
# Log levels

How verbose a log is, from nothing to everything. A level is named by a word or by its number.
-/

namespace Rulebook

/-- How verbose a log is, from nothing to everything. -/
inductive Level where
  | off
  | error
  | warn
  | info
  | debug
  | trace
  deriving DecidableEq, Repr

namespace Level

/-- The levels from the least to the most verbose, numbered from zero. -/
def all : List Level := [.off, .error, .warn, .info, .debug, .trace]

/-- The number of a level. -/
def rank (l : Level) : Nat := all.idxOf l

/-- The name of a level. -/
def name : Level → String
  | .off => "off"
  | .error => "error"
  | .warn => "warn"
  | .info => "info"
  | .debug => "debug"
  | .trace => "trace"

/-- The level that a text names, by number or by name in any case. -/
def read? (cs : List Char) : Option Level :=
  match Numeral.unsigned? cs with
  | some n => all[n]?
  | none => all.find? fun l => l.name.toList = cs.map Char.toLower

/-- The more verbose one of two levels. -/
def max (a b : Level) : Level := if a.rank < b.rank then b else a

end Level

end Rulebook
