import Rulebook.Json.Draft
import Rulebook.Json.Mismatch

/-!
# Reading a text to a record

A `Shape` says which fields a record has. A text gives the record as an object, or as an array
that lists the fields in their order. The reader walks the draft of the text in the order of the
text, and so of several faults the first one decides, be it that the text breaks off or that a
value does not fit. Members that the shape does not know are passed over.
-/

namespace Rulebook.Json

/-- A step from a value to one of its parts. -/
inductive Step where
  | member (name : String)
  | item (index : Nat)
  deriving DecidableEq, Repr

/-- Why a text does not give a value of the wanted shape. -/
inductive Fault where
  /-- The text is no JSON, or none whose values can be kept. -/
  | notJson
  /-- The value at a place does not fit. -/
  | misfit (place : List Step) (cause : Mismatch)
  deriving DecidableEq, Repr

namespace Fault

/-- A fault of a part as a fault of the whole. -/
def inside (step : Step) : Fault → Fault
  | .notJson => .notJson
  | .misfit place cause => .misfit (step :: place) cause

/-- The text of the steps behind the first: indices in brackets, names behind points. -/
def furtherText : List Step → String
  | [] => ""
  | .member name :: rest => "." ++ name ++ furtherText rest
  | .item index :: rest => s!"[{index}]" ++ furtherText rest

/-- The text of a place. -/
def placeText : List Step → String
  | .member name :: rest => name ++ furtherText rest
  | steps => furtherText steps

end Fault

namespace Draft

/-- What a draft is called in a mismatch; one that breaks off or has a flaw is not called. -/
def described? : Draft → Option String
  | .null => some "null"
  | .bool b => some (describedBool b)
  | .number n => n.map (·.described)
  | .string s => s.map describedString
  | .array _ _ => some "sequence"
  | .object _ _ => some "map"
  | .broken => none

/-- The fault of a draft in the place of something else. -/
def insteadOf (d : Draft) (expected : String) : Fault :=
  match d.described? with
  | some found => .misfit [] (.wrongType found expected)
  | none => .notJson

/-- The string that a draft is. -/
def asString : Draft → Except Fault String
  | .string (some s) => .ok s
  | d => .error (d.insteadOf "a string")

/-- The boolean that a draft is. -/
def asBool : Draft → Except Fault Bool
  | .bool b => .ok b
  | d => .error (d.insteadOf "a boolean")

/-- The value of a draft that nests at most `room` deep. -/
def asJson (room : Nat) (d : Draft) : Except Fault Json :=
  match d.toJson? room with
  | some v => .ok v
  | none => .error .notJson

/-- The strings of an array's items, of which the first has the given index. -/
def itemsAsStrings (index : Nat) : List Draft → Except Fault (List String)
  | [] => .ok []
  | d :: rest => do
    let s ← d.asString.mapError (Fault.inside (.item index))
    let ss ← itemsAsStrings (index + 1) rest
    pure (s :: ss)

/-- The strings that an array lists. -/
def asStrings : Draft → Except Fault (List String)
  | .array items closed => do
    let ss ← itemsAsStrings 0 items
    if closed then pure ss else throw .notJson
  | d => .error (d.insteadOf "a sequence")

end Draft

/-- A field of a record whose parts are gathered in `α`. -/
structure Field (α : Type) where
  name : String
  isSet : α → Bool
  read : α → Draft → Except Fault α

/-- The shape of a record `β`: what it is called, its fields in order, and the record made of the
parts, or the name of a field that is missing. -/
structure Shape (α β : Type) where
  title : String
  fields : List (Field α)
  start : α
  finish : α → Except String β

namespace Shape

variable {α β : Type}

/-- Takes in the members of an object, in the order of the text. -/
def takeMembers (s : Shape α β) (parts : α) : List (Option String × Draft) → Except Fault α
  | [] => .ok parts
  | (none, _) :: _ => .error .notJson
  | (some key, d) :: rest =>
    match s.fields.find? (·.name = key) with
    | none => if d.isWhole then s.takeMembers parts rest else .error .notJson
    | some f =>
      if f.isSet parts then .error (.misfit [] (.duplicateField key))
      else do
        let parts ← (f.read parts d).mapError (Fault.inside (.member key))
        s.takeMembers parts rest

/-- Takes in the items of an array, of which the first has the given index, as fields in order. -/
def takeItems (parts : α) (index : Nat) : List (Field α) → List Draft → Except Fault α
  | _, [] => .ok parts
  | [], _ :: _ => .error .notJson
  | f :: fs, d :: rest => do
    let parts ← (f.read parts d).mapError (Fault.inside (.item index))
    takeItems parts (index + 1) fs rest

/-- What an array of too few items is not. -/
def expectedItems (s : Shape α β) : String :=
  s!"{s.title} with {s.fields.length} element" ++ if s.fields.length = 1 then "" else "s"

/-- The record that a draft gives. -/
def ofDraft (s : Shape α β) : Draft → Except Fault β
  | .object members closed => do
    let parts ← s.takeMembers s.start members
    if closed then
      (s.finish parts).mapError fun name => .misfit [] (.missingField name)
    else throw .notJson
  | .array items closed => do
    let parts ← takeItems s.start 0 s.fields items
    if closed then
      (s.finish parts).mapError fun _ => .misfit [] (.wrongLength items.length s.expectedItems)
    else throw .notJson
  | d => .error (d.insteadOf s.title)

/-- The record that a text gives. -/
def ofText (s : Shape α β) (cs : List Char) : Except Fault β :=
  match Draft.readText cs with
  | .trailing d => do
    -- The value comes first in the text, and so do its faults.
    let _ ← s.ofDraft d
    throw .notJson
  | state => s.ofDraft state.value

end Shape

end Rulebook.Json
