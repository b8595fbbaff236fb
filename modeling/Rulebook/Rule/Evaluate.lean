import Rulebook.Rule.Tree
import Rulebook.Text.Case

/-!
# Evaluating a rule on a record

A record gives each of its fields a JSON value. Two texts are compared as texts: for equality
without regard to letter case, for order by code points. Anything else is compared as numbers,
where a text that is no numeral is not a number and so never compares. A field that the record
lacks fails its condition.

`Tree.execute` evaluates a tree and, if asked to, keeps a line for each of its nodes.
-/

namespace Rulebook

/-- The fields of a record and their values. -/
abbrev Record := List (String × Json)

/-- The number that a text stands for: none of its characters but white space is zero. -/
def textNumber (s : String) : Double :=
  let body := Text.trim s.toList
  if body.isEmpty then .zero else (Double.read? body).getD .nan

/-- The number that a value stands for. -/
def Json.asNumber : Json → Double
  | .number n => n.toDouble
  | .bool b => if b then .one else .zero
  | .null => .zero
  | .string s => textNumber s
  | .array _ => .nan
  | .object _ => .nan

/-- The number that a literal stands for. -/
def Literal.asNumber : Literal → Double
  | .number x => x
  | .text s => textNumber s

/-- Loose equality of a value and a literal. -/
def Json.looselyEquals : Json → Literal → Bool
  | .string s, .text t => Text.lower s == Text.lower t
  | .null, _ => false
  | .array _, _ => false
  | .object _, _ => false
  | v, l => v.asNumber.numEq l.asNumber

/-- The order of a value and a literal; what is not a number has none. -/
def Json.looseOrder? : Json → Literal → Option Ordering
  | .string s, .text t => some (compare s t)
  | v, l => v.asNumber.compare? l.asNumber

/-- Whether a comparator holds between a value and a literal. -/
def Comparator.holds : Comparator → Json → Literal → Bool
  | .eq, v, l => v.looselyEquals l
  | .gt, v, l => (v.looseOrder? l).any (·.isGT)
  | .lt, v, l => (v.looseOrder? l).any (·.isLT)
  | .ge, v, l => (v.looseOrder? l).any (·.isGE)
  | .le, v, l => (v.looseOrder? l).any (·.isLE)
  | .unsupported _, _, _ => false

/-- Whether a condition holds for the value of its field, if there is one. -/
def Condition.holdsFor (c : Condition) (value : Option Json) : Bool :=
  match value with
  | some v => c.comparator.holds v c.literal
  | none => false

/-- Whether a condition holds for a record. -/
def Condition.holds (c : Condition) (record : Record) : Bool :=
  c.holdsFor (Json.member? c.field record)

/-- What is kept of an evaluation: the conditions that matched and a line for each node. -/
structure Log where
  conditions : List String
  lines : List String
  deriving DecidableEq

/-- The result of an evaluation. -/
structure Evaluation where
  isMatch : Bool
  log : Log
  deriving DecidableEq

namespace Tree

/-- Whether a rule matches a record. -/
def holds (record : Record) : Tree → Bool
  | .leaf c => c.holds record
  | .node k left right => k.join (left.holds record) (right.holds record)

/-- The verdict at the end of a line. -/
def verdict (isMatch : Bool) : String := if isMatch then "MATCHED" else "NOT_MATCHED"

/-- Evaluates the tree at `path`, its left side first, and adds to the log if `traced`. -/
def walk (traced : Bool) (record : Record) : (path : String) → Tree → Log → Bool × Log
  | path, .leaf c, log =>
    let isMatch := c.holds record
    if traced then
      (isMatch,
        ⟨if isMatch then log.conditions ++ [s!"{path}: {c.text}"] else log.conditions,
         log.lines ++ [s!"{path}: {c.text} => {verdict isMatch}"]⟩)
    else (isMatch, log)
  | path, .node k left right, log =>
    -- Without a trace no path is ever shown.
    let (leftPath, rightPath) := if traced then (path ++ ".left", path ++ ".right") else ("", "")
    let (l, log) := walk traced record leftPath left log
    let (r, log) := walk traced record rightPath right log
    let isMatch := k.join l r
    if traced then
      (isMatch,
        ⟨log.conditions,
         log.lines ++
           [s!"{path}: {k.keyword} (left={l}, right={r}) => {verdict isMatch}"]⟩)
    else (isMatch, log)

/-- Evaluates a rule on a record. -/
def execute (traced : Bool) (record : Record) (tree : Tree) : Evaluation :=
  let (isMatch, log) := walk traced record "root" tree ⟨[], []⟩
  ⟨isMatch, log⟩

/-- Whether a rule that may be missing matches a record; a missing one does not. -/
def holds? (record : Record) (tree : Option Tree) : Bool := tree.any (·.holds record)

end Tree

end Rulebook
