/-!
# Comparators and connectives

A comparator relates a field to a literal, a connective joins two conditions. Both are written as
a text, and both keep a text that is none of their symbols: such an operator is carried along and
never holds.
-/

namespace Rulebook

/-- How a field is compared with a literal. -/
inductive Comparator where
  | gt
  | lt
  | ge
  | le
  | eq
  | unsupported (symbol : String)
  deriving DecidableEq, Repr

namespace Comparator

/-- The comparator that a symbol stands for; equality has two symbols. -/
def ofSymbol : String → Comparator
  | ">" => .gt
  | "<" => .lt
  | ">=" => .ge
  | "<=" => .le
  | "=" => .eq
  | "==" => .eq
  | symbol => .unsupported symbol

/-- The symbol that a comparator is written with. -/
def symbol : Comparator → String
  | .gt => ">"
  | .lt => "<"
  | .ge => ">="
  | .le => "<="
  | .eq => "="
  | .unsupported symbol => symbol

/-- Whether a comparator can hold at all. -/
def isSupported : Comparator → Bool
  | .unsupported _ => false
  | _ => true

/-- The symbols of a rule text, each one in front of those that it starts with. -/
def symbols : List String := ["<=", ">=", "<", ">", "="]

/-- A supported comparator is read back from its symbol. -/
theorem ofSymbol_symbol {c : Comparator} (h : c.isSupported = true) : ofSymbol c.symbol = c := by
  cases c with
  | unsupported _ => simp [isSupported] at h
  | _ => rfl

end Comparator

/-- How two conditions are joined. -/
inductive Connective where
  | and
  | or
  | unsupported (keyword : String)
  deriving DecidableEq, Repr

namespace Connective

/-- The connective that a keyword stands for. -/
def ofKeyword : String → Connective
  | "AND" => .and
  | "OR" => .or
  | keyword => .unsupported keyword

/-- The keyword that a connective is written with. -/
def keyword : Connective → String
  | .and => "AND"
  | .or => "OR"
  | .unsupported keyword => keyword

/-- How tightly a connective binds. -/
def precedence : Connective → Nat
  | .and => 2
  | .or => 1
  | .unsupported _ => 0

/-- Whether two joined conditions match, given whether each of them does. -/
def join : Connective → Bool → Bool → Bool
  | .and, left, right => left && right
  | .or, left, right => left || right
  | .unsupported _, _, _ => false

end Connective

end Rulebook
