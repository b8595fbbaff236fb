import Rulebook.Number.Layout
import Rulebook.Telemetry.Level
import Rulebook.Telemetry.Pattern
import Rulebook.Text.Bytes
import Rulebook.Text.Split

/-!
# Directives of a log filter

A directive says how verbose the log is for a target, for a span, for spans with a field, or, as a
bare level, for all else. Its text is `target[span{field=value}]=level`, where each part may be
absent. Directives have an order, in which the less specific one is less.
-/

namespace Rulebook

/-! ## Fields -/

/-- What the value of a field is compared with. -/
inductive FieldValue where
  | flag (value : Bool)
  | real (value : Double)
  | natural (value : Nat)
  | integer (value : Int)
  /-- A regular expression. -/
  | pattern (text : String)
  deriving DecidableEq

namespace FieldValue

/-- The integer below zero, or zero with a sign, that a text denotes. -/
def signed? : List Char → Option Int
  | '-' :: cs => (Numeral.natural? cs).map fun n => -(n : Int)
  | _ => none

/-- The value that a text denotes. -/
def read? (cs : List Char) : Option FieldValue :=
  if cs = "true".toList then some (.flag true)
  else if cs = "false".toList then some (.flag false)
  else match (Numeral.unsigned? cs).filter (· < 0x10000000000000000) with
    | some n => some (.natural n)
    | none =>
      match (signed? cs).filter (-0x8000000000000000 ≤ ·) with
      | some i => some (.integer i)
      | none =>
        match Double.read? cs with
        | some x => some (.real x)
        | none => if Pattern.isPattern cs then some (.pattern (String.ofList cs)) else none

/-- The text of a value. -/
def text : FieldValue → String
  | .flag b => toString b
  | .real x => x.plain
  | .natural n => toString n
  | .integer i => toString i
  | .pattern s => s

/-- The place of a value's kind among the kinds; that of a NaN is behind the other reals. -/
def kindRank : FieldValue → Nat
  | .flag _ => 0
  | .real x => if x.isNaN then 2 else 1
  | .natural _ => 3
  | .integer _ => 4
  | .pattern _ => 5

/-- The order of two values. -/
def compare : FieldValue → FieldValue → Ordering
  | .flag a, .flag b => Ord.compare a.toNat b.toNat
  | .real a, .real b =>
    (a.compare? b).getD (Ord.compare (FieldValue.real a).kindRank (FieldValue.real b).kindRank)
  | .natural a, .natural b => Ord.compare a b
  | .integer a, .integer b => Ord.compare a b
  | .pattern a, .pattern b => Ord.compare a b
  | a, b => Ord.compare a.kindRank b.kindRank

end FieldValue

/-- A field of a span, and what its value is compared with, if it is. -/
structure FieldTest where
  name : String
  value : Option FieldValue
  deriving DecidableEq

namespace FieldTest

/-- The test that a text denotes: a name, and a value behind an equals sign. -/
def read? (cs : List Char) : Option FieldTest :=
  match Text.split '=' cs with
  | name :: value :: _ => (FieldValue.read? value).map fun v => ⟨String.ofList name, some v⟩
  | _ => some ⟨String.ofList cs, none⟩

/-- The text of a test. -/
def text (t : FieldTest) : String := t.name ++ (t.value.map fun v => "=" ++ v.text).getD ""

end FieldTest

/-- The order of two things that may be absent; an absent one comes first. -/
def compareOptions {α : Type} (compare : α → α → Ordering) : Option α → Option α → Ordering
  | none, none => .eq
  | none, some _ => .lt
  | some _, none => .gt
  | some a, some b => compare a b

/-- The order of two tests; one without a value is less. -/
def FieldTest.compare (a b : FieldTest) : Ordering :=
  (Ord.compare a.value.isSome.toNat b.value.isSome.toNat).then <|
    (Ord.compare a.name b.name).then (compareOptions FieldValue.compare a.value b.value)

/-! ## Directives -/

/-- How verbose the log is for what is named. -/
structure Directive where
  target : Option String
  span : Option String
  field : Option FieldTest
  level : Level
  deriving DecidableEq

namespace Directive

/-- A directive without a name. -/
def bare (level : Level) : Directive := ⟨none, none, none, level⟩

/-- Whether it depends on where the log is written: inside which span, with which fields. -/
def isDynamic (d : Directive) : Bool := d.span.isSome || d.field.isSome

/-- Whether it compares the value of a field. -/
def testsValue (d : Directive) : Bool := (d.field.bind (·.value)).isSome

/-- Whether it can be decided before anything is logged. -/
def isStatic (d : Directive) : Bool := d.span.isNone && !d.testsValue

/-! ### Reading

Where the parts of an item end is counted in bytes without the blanks around the item; the parts
are cut from the item as it stands. -/

/-- The part of an item between two places. -/
def part (item : List Char) (start stop : Nat) : List Char :=
  Text.takeBytes (stop - start) (Text.dropBytes start item)

/-- The level behind an equals sign; none is the most verbose one. -/
def levelAfter? (cs : List Char) : Option Level :=
  if cs.isEmpty then some .trace else Level.read? cs

/-- A directive that is one word: a level, or a target at the most verbose level. -/
def ofWord (cs : List Char) : Directive :=
  match Level.read? cs with
  | some level => .bare level
  | none => ⟨some (String.ofList cs), none, none, .trace⟩

/-- A character that a directive may start with, but for the bracket of a span. -/
def isStart (c : Char) : Bool := c = '-' || c = ':' || c = '_' || Text.isAlphanumeric c

/-- The directive with the level that follows the closing bracket, which is at `place` in `item`;
`body` is what follows that bracket in the item without the blanks around it. -/
def closed? (d : Directive) (item : List Char) (place : Nat) : (body : List Char) →
    Option Directive
  | [] => some d
  | '=' :: _ => (levelAfter? (Text.dropBytes (place + 2) item)).map fun level => { d with level }
  | _ => none

/-- The directive that names a span or a field between brackets, of which the first is in front of
`start` in `item`; `body` is what follows that bracket in the item without the blanks around it. -/
def bracketed? (target : Option String) (item : List Char) (start : Nat) (body : List Char) :
    Option Directive :=
  let name := body.takeWhile fun c => c ≠ ']' && c ≠ '\x7b'
  let stop := start + Text.byteCount name
  let span := part item start stop
  match body.drop name.length with
  | ']' :: rest => closed? ⟨target, some (String.ofList span), none, .trace⟩ item stop rest
  | '\x7b' :: inner =>
    let field := inner.takeWhile (· ≠ '\x7d')
    let fieldStop := stop + 1 + Text.byteCount field
    match inner.drop field.length, part item (stop + 1) fieldStop with
    | '\x7d' :: ']' :: rest, c :: cs => do
      let field ← FieldTest.read? (c :: cs)
      let span := if span.isEmpty then none else some (String.ofList span)
      closed? ⟨target, span, some field, .trace⟩ item (fieldStop + 1) rest
    | _, _ => none
  | _ => none

/-- The directive that an item of a filter denotes. -/
def read? (item : List Char) : Option Directive :=
  let body := Text.trim item
  let word := body.takeWhile fun c => c ≠ '=' && c ≠ '['
  let stop := Text.byteCount word
  let target := String.ofList (part item 0 stop)
  match body with
  | [] => none
  | '[' :: rest => bracketed? none item 1 rest
  | c :: _ =>
    if !isStart c then none
    else match body.drop word.length with
      | [] => some (ofWord item)
      | '[' :: rest => bracketed? (some target) item (stop + 1) rest
      | _ => (levelAfter? (Text.dropBytes (stop + 1) item)).map fun level =>
        ⟨some target, none, none, level⟩

/-! ### Text and order -/

/-- The text of a directive. -/
def text (d : Directive) : String :=
  let field := (d.field.map fun t => "\x7b" ++ t.text ++ "\x7d").getD ""
  let brackets := if d.isDynamic then "[" ++ d.span.getD "" ++ field ++ "]" else ""
  let isNamed := d.target.isSome || d.isDynamic
  d.target.getD "" ++ brackets ++ (if isNamed then "=" else "") ++ d.level.name

/-- How two directives compare: the less specific one is less. A longer target is more specific,
then a span, then a field; the rest only tells them apart. -/
def compareSpecific (a b : Directive) : Ordering :=
  (compareOptions compare (a.target.map (·.utf8ByteSize)) (b.target.map (·.utf8ByteSize))).then <|
    (compare a.span.isSome.toNat b.span.isSome.toNat).then <|
    (compare a.field.isSome.toNat b.field.isSome.toNat).then <|
    (compareOptions compare a.target b.target).then <|
    (compareOptions compare a.span b.span).then
      (compareOptions FieldTest.compare a.field b.field)

/-- Adds a directive to a list that has the more specific ones first; it replaces one that names
the same. -/
def insert (d : Directive) : List Directive → List Directive
  | [] => [d]
  | e :: rest =>
    match compareSpecific d e with
    | .gt => d :: e :: rest
    | .eq => d :: rest
    | .lt => e :: insert d rest

end Directive

end Rulebook
