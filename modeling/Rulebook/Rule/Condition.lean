import Rulebook.Json.Text
import Rulebook.Rule.Operator
import Rulebook.Text.Blank

/-!
# Conditions

A condition compares one field of a record with a literal, which is a number or a text. A number
that is whole and not too large is written as an integer, in a rule and in JSON alike.
-/

namespace Rulebook

/-- The constant that a field is compared with. -/
inductive Literal where
  | number (value : Double)
  | text (value : String)
  deriving DecidableEq

namespace Literal

/-- The literal that a piece of a rule text denotes: a number if the piece is a finite numeral, and
otherwise the text without its quotes. -/
def ofText (piece : List Char) : Literal :=
  let body := Text.trim piece
  match Double.read? body with
  | some x => if x.isFinite then .number x else .text (String.ofList (body.filter (· ≠ '\'')))
  | none => .text (String.ofList (body.filter (· ≠ '\'')))

/-- The least integer, by magnitude, that is not written as one. -/
def wholeLimit : Nat := 9000000000000000

/-- The integer that a number is written as. -/
def whole? (x : Double) : Option { i : Int // i.natAbs < wholeLimit } :=
  match x.whole? with
  | some i => if h : i.natAbs < wholeLimit then some ⟨i, h⟩ else none
  | none => none

/-- The text of a literal. -/
def chars : Literal → List Char
  | .number x =>
    match whole? x with
    | some i => Json.intChars i.val
    | none => x.plain.toList
  | .text s => '\'' :: (s.toList ++ ['\''])

/-- The JSON value of a literal; a number that JSON does not have becomes null. -/
def toJson : Literal → Json
  | .number x =>
    match whole? x with
    | some ⟨i, h⟩ => .number (.integer i (by unfold wholeLimit at h; omega))
    | none =>
      match Json.Number.ofDouble? x with
      | some n => .number n
      | none => .null
  | .text s => .string s

/-- The literal that a JSON value denotes: a number or a string. -/
def ofJson? : Json → Option Literal
  | .number n => some (.number n.toDouble)
  | .string s => some (.text s)
  | _ => none

/-- Equality up to the sign of a zero; a NaN equals nothing. -/
def agrees : Literal → Literal → Bool
  | .number x, .number y => x.numEq y
  | .text s, .text t => s == t
  | _, _ => false

end Literal

/-- A comparison of a field with a literal. -/
structure Condition where
  field : String
  comparator : Comparator
  literal : Literal
  deriving DecidableEq

namespace Condition

/-- The text of a condition. -/
def chars (c : Condition) : List Char :=
  c.field.toList ++ ' ' :: (c.comparator.symbol.toList ++ ' ' :: c.literal.chars)

/-- The text of a condition. -/
def text (c : Condition) : String := String.ofList c.chars

/-- Equality up to the sign of a zero literal. -/
def agrees (c d : Condition) : Bool :=
  c.field == d.field && c.comparator == d.comparator && c.literal.agrees d.literal

end Condition

end Rulebook
