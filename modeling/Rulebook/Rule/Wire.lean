import Rulebook.Json.Mismatch
import Rulebook.Rule.Tree

/-!
# Rule trees as JSON

A tree travels as nested objects with the members `type`, `value`, `left` and `right`. Reading goes
in two steps: `Wire.ofJson` finds the nodes, in an object or in an array that lists the members,
and `Wire.toTree` checks that each node is what its type says. A fault of the first step anywhere
in the value comes before any fault of the second.
-/

namespace Rulebook

open Json (Mismatch)

/-- The type of a node. -/
inductive Wire.Kind where
  | operand
  | operator
  deriving DecidableEq

/-- A node with the members it has, whether or not they go together. -/
inductive Wire where
  | mk (kind : Wire.Kind) (value : Json) (left right : Option Wire)

/-- Why a JSON value is not a rule tree. -/
inductive WireError where
  /-- A node is not of the right shape. -/
  | mismatch (cause : Mismatch)
  /-- A condition has children. -/
  | leafWithChildren
  /-- The value of a condition is not of the right shape. -/
  | badCondition (cause : Mismatch)
  /-- The value of a connective is not a string. -/
  | keywordNotText (value : Json)
  /-- A connective has no left side. -/
  | missingLeft (keyword : String)
  /-- A connective has no right side. -/
  | missingRight (keyword : String)

/-- What a wire error tells the caller. -/
def WireError.message : WireError → String
  | .mismatch cause => cause.message
  | .leafWithChildren => "operand 节点不能包含子节点"
  | .badCondition cause => s!"operand 节点的比较条件无效: {cause.message}"
  | .keywordNotText value => s!"operator 节点的值必须是字符串，实际: {value.text}"
  | .missingLeft keyword => s!"operator 节点 {keyword} 缺少左子树"
  | .missingRight keyword => s!"operator 节点 {keyword} 缺少右子树"

namespace Wire

/-- The type that a name stands for. -/
def Kind.ofName? : String → Option Kind
  | "operand" => some .operand
  | "operator" => some .operator
  | _ => none

/-- The name of a type. -/
def Kind.name : Kind → String
  | .operand => "operand"
  | .operator => "operator"

/-- The type with this name. -/
def Kind.ofName (name : String) : Except Mismatch Kind :=
  match ofName? name with
  | some kind => .ok kind
  | none => .error (.unknownVariant name "`operand` or `operator`")

/-- The type that a value stands for: a name, or an object with the name over a null. -/
def Kind.ofJson : Json → Except Mismatch Kind
  | .string name => ofName name
  | .object [(name, value)] => do
    let kind ← ofName name
    match value with
    | .null => pure kind
    | v => throw (.wrongType v.described "unit")
  | .object _ => .error (.wrongValue "map" "map with a single key")
  | v => .error (.wrongType v.described "string or map")

/-- The members of a node that have been met. -/
structure Parts where
  kind : Option Kind
  value : Option Json
  left : Option (Option Wire)
  right : Option (Option Wire)

/-- The node made of the members that have been met. -/
def Parts.finish (p : Parts) : Except Mismatch Wire :=
  match p.kind, p.value with
  | none, _ => .error (.missingField "type")
  | _, none => .error (.missingField "value")
  | some kind, some value => .ok (.mk kind value p.left.join p.right.join)

/-- What an array of too few items is not. -/
def fourElements : String := "struct WireNode with 4 elements"

mutual

/-- The node that a value describes. -/
def ofJson : Json → Except Mismatch Wire
  | .object members => do (← ofMembers ⟨none, none, none, none⟩ members).finish
  | .array items => ofItems items
  | v => .error (.wrongType v.described "struct WireNode")

/-- The child that a value describes; a null is none. -/
def ofChild : Json → Except Mismatch (Option Wire)
  | .null => .ok none
  -- The rest is `ofJson`, spelled out so that the recursion stays structural.
  | .object members => do
    pure (some (← (← ofMembers ⟨none, none, none, none⟩ members).finish))
  | .array items => do pure (some (← ofItems items))
  | v => .error (.wrongType v.described "struct WireNode")

/-- Adds the members of an object to those that have been met, in their order. -/
def ofMembers (p : Parts) : List (String × Json) → Except Mismatch Parts
  | [] => .ok p
  | (key, v) :: rest =>
    if key = "type" then
      if p.kind.isSome then .error (.duplicateField "type")
      else do ofMembers { p with kind := some (← Kind.ofJson v) } rest
    else if key = "value" then
      if p.value.isSome then .error (.duplicateField "value")
      else ofMembers { p with value := some v } rest
    else if key = "left" then
      if p.left.isSome then .error (.duplicateField "left")
      else do ofMembers { p with left := some (← ofChild v) } rest
    else if key = "right" then
      if p.right.isSome then .error (.duplicateField "right")
      else do ofMembers { p with right := some (← ofChild v) } rest
    else ofMembers p rest

/-- The node whose type, value, left and right side are listed; the sides may be left out. -/
def ofItems : List Json → Except Mismatch Wire
  | [] => .error (.wrongLength 0 fourElements)
  | [k] => do
    let _ ← Kind.ofJson k
    throw (.wrongLength 1 fourElements)
  | [k, v] => do pure (.mk (← Kind.ofJson k) v none none)
  | [k, v, l] => do
    let kind ← Kind.ofJson k
    pure (.mk kind v (← ofChild l) none)
  | k :: v :: l :: r :: rest => do
    let kind ← Kind.ofJson k
    let left ← ofChild l
    let right ← ofChild r
    if rest.isEmpty then pure (.mk kind v left right)
    else throw (.wrongLength (rest.length + 4) "fewer elements in array")

end

end Wire

/-- The members of a condition that have been met. -/
structure Condition.Parts where
  field : Option String
  comparator : Option Comparator
  literal : Option Literal

namespace Condition

/-- The literal that a value is. -/
def literalOfJson (v : Json) : Except Mismatch Literal :=
  match Literal.ofJson? v with
  | some l => .ok l
  | none => .error (.noAlternative "Literal")

/-- Adds the members of an object to those that have been met, in their order. The literal has two
names. -/
def ofMembers (p : Parts) : List (String × Json) → Except Mismatch Parts
  | [] => .ok p
  | (key, v) :: rest =>
    if key = "field" then
      if p.field.isSome then .error (.duplicateField "field")
      else do ofMembers { p with field := some (← v.asText) } rest
    else if key = "operator" then
      if p.comparator.isSome then .error (.duplicateField "operator")
      else do ofMembers { p with comparator := some (.ofSymbol (← v.asText)) } rest
    else if key = "value" ∨ key = "literal" then
      if p.literal.isSome then .error (.duplicateField "value")
      else do ofMembers { p with literal := some (← literalOfJson v) } rest
    else ofMembers p rest

/-- The condition made of the members that have been met. -/
def Parts.finish (p : Parts) : Except Mismatch Condition :=
  match p.field, p.comparator, p.literal with
  | none, _, _ => .error (.missingField "field")
  | _, none, _ => .error (.missingField "operator")
  | _, _, none => .error (.missingField "value")
  | some field, some comparator, some literal => .ok ⟨field, comparator, literal⟩

/-- What an array of too few items is not. -/
def threeElements : String := "struct Comparison with 3 elements"

/-- The condition whose field, comparator and literal are listed. -/
def ofItems : List Json → Except Mismatch Condition
  | [] => .error (.wrongLength 0 threeElements)
  | [f] => do
    let _ ← f.asText
    throw (.wrongLength 1 threeElements)
  | [f, o] => do
    let _ ← f.asText
    let _ ← o.asText
    throw (.wrongLength 2 threeElements)
  | f :: o :: v :: rest => do
    let field ← f.asText
    let symbol ← o.asText
    let literal ← literalOfJson v
    if rest.isEmpty then pure ⟨field, .ofSymbol symbol, literal⟩
    else throw (.wrongLength (rest.length + 3) "fewer elements in array")

/-- The condition that a value describes. -/
def ofJson : Json → Except Mismatch Condition
  | .object members => do (← ofMembers ⟨none, none, none⟩ members).finish
  | .array items => ofItems items
  | v => .error (.wrongType v.described "struct Comparison")

/-- The JSON value of a condition. -/
def toJson (c : Condition) : Json :=
  .object [("field", .string c.field), ("operator", .string c.comparator.symbol),
    ("value", c.literal.toJson)]

end Condition

/-- The tree that a node stands for. -/
def Wire.toTree : Wire → Except WireError Tree
  | .mk .operand value left right =>
    if left.isSome ∨ right.isSome then .error .leafWithChildren
    else match Condition.ofJson value with
      | .ok c => .ok (.leaf c)
      | .error cause => .error (.badCondition cause)
  | .mk .operator value left right =>
    match value with
    | .string keyword =>
      match left, right with
      | none, _ => .error (.missingLeft keyword)
      | some _, none => .error (.missingRight keyword)
      | some l, some r => do
        let left ← l.toTree
        let right ← r.toTree
        pure (.node (.ofKeyword keyword) left right)
    | v => .error (.keywordNotText v)

namespace Tree

/-- The JSON value of a tree. -/
def toJson : Tree → Json
  | .leaf c =>
    .object [("type", .string "operand"), ("value", c.toJson), ("left", .null), ("right", .null)]
  | .node k left right =>
    .object [("type", .string "operator"), ("value", .string k.keyword), ("left", left.toJson),
      ("right", right.toJson)]

/-- The tree that a JSON value describes. -/
def ofJson (v : Json) : Except WireError Tree :=
  match Wire.ofJson v with
  | .ok wire => wire.toTree
  | .error cause => .error (.mismatch cause)

end Tree

end Rulebook
