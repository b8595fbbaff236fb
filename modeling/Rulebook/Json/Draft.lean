import Rulebook.Json.Token

/-!
# What a JSON text says, as far as it goes

A `Draft` is the tree of a text that may break off: it keeps members in the order of the text, with
repeated keys, and marks the arrays and objects whose end is never reached. A reader that walks a
draft in order meets the faults of a text in the order of the text, whether the text breaks there
or a value is not of the kind that is wanted.

The tree is built by a stack of open arrays and objects, one token at a time.
-/

namespace Rulebook.Json

/-- A value of a JSON text that may break off. A string or number without a value has a flaw that
matters only to a reader that wants it; a container that is not `closed` breaks off. -/
inductive Draft where
  | null
  | bool (value : Bool)
  | number (value : Option Number)
  | string (value : Option String)
  | array (items : List Draft) (closed : Bool)
  | object (members : List (Option String × Draft)) (closed : Bool)
  | broken

namespace Draft

/-- An array or object whose end has not been reached, its contents in reverse. -/
inductive Frame where
  | array (items : List Draft)
  | object (members : List (Option String × Draft))
  | member (members : List (Option String × Draft)) (key : Option String)

/-- What the next token may be. -/
inductive Wanted where
  /-- A value. -/
  | value
  /-- A value or the end of the array that was just opened. -/
  | firstItem
  /-- A key or the end of the object that was just opened. -/
  | firstKey
  /-- A key. -/
  | key
  /-- The colon behind a key. -/
  | colon
  /-- A comma or the end of the innermost container. -/
  | comma

/-- The state of reading: the whole value with nothing or something behind it, or a value in the
making with the innermost frame first. -/
inductive State where
  | reading (wanted : Wanted) (frames : List Frame)
  | complete (value : Draft)
  | trailing (value : Draft)
  | failed (value : Draft)

/-- A container whose end is or is not reached. -/
def Frame.close (closed : Bool) (inner : Option Draft) : Frame → Draft
  | .array items => .array (inner.toList.reverse ++ items).reverse closed
  | .object members => .object members.reverse closed
  | .member members key => .object ((key, inner.getD .broken) :: members).reverse closed

/-- The value of a text that breaks off inside `frames`. -/
def breakOff (inner : Option Draft) : List Frame → Draft
  | [] => inner.getD .broken
  | frame :: outer => breakOff (some (frame.close false inner)) outer

/-- The state after a whole value inside `frames`. -/
def place (value : Draft) : List Frame → State
  | [] => .complete value
  | .array items :: outer => .reading .comma (.array (value :: items) :: outer)
  | .member members key :: outer => .reading .comma (.object ((key, value) :: members) :: outer)
  | .object members :: outer => .failed (breakOff none (.object members :: outer))

/-- The state after the first token of a value. -/
def openValue (frames : List Frame) : Token → State
  | .openBracket => .reading .firstItem (.array [] :: frames)
  | .openBrace => .reading .firstKey (.object [] :: frames)
  | .null => place .null frames
  | .bool b => place (.bool b) frames
  | .number n => place (.number n) frames
  | .string s => place (.string s) frames
  | _ => .failed (breakOff none frames)

/-- The state after a key. -/
def openMember (key : Option String) : List Frame → State
  | .object members :: outer => .reading .colon (.member members key :: outer)
  | frames => .failed (breakOff none frames)

/-- The state after the end of the innermost container. -/
def closeContainer : List Frame → State
  | frame :: outer => place (frame.close true none) outer
  | [] => .failed .broken

/-- The state after the token behind an item or a member. -/
def continueContainer : List Frame → Token → State
  | .array items :: outer, .comma => .reading .value (.array items :: outer)
  | .array items :: outer, .closeBracket => closeContainer (.array items :: outer)
  | .object members :: outer, .comma => .reading .key (.object members :: outer)
  | .object members :: outer, .closeBrace => closeContainer (.object members :: outer)
  | frames, _ => .failed (breakOff none frames)

/-- One step of reading. -/
def step : State → Token → State
  | .complete v, _ => .trailing v
  | .trailing v, _ => .trailing v
  | .failed v, _ => .failed v
  | .reading .firstItem frames, .closeBracket => closeContainer frames
  | .reading .firstItem frames, t => openValue frames t
  | .reading .value frames, t => openValue frames t
  | .reading .firstKey frames, .closeBrace => closeContainer frames
  | .reading .firstKey frames, .string key => openMember key frames
  | .reading .firstKey frames, _ => .failed (breakOff none frames)
  | .reading .key frames, .string key => openMember key frames
  | .reading .key frames, _ => .failed (breakOff none frames)
  | .reading .colon frames, .colon => .reading .value frames
  | .reading .colon frames, _ => .failed (breakOff none frames)
  | .reading .comma frames, t => continueContainer frames t

/-- The value that reading ended with. -/
def State.value : State → Draft
  | .reading _ frames => breakOff none frames
  | .complete v | .trailing v | .failed v => v

/-- The state after reading tokens. -/
def readTokens (ts : List Token) : State := ts.foldl step (.reading .value [])

/-- The state after reading a text. -/
def readText (cs : List Char) : State := readTokens (Token.ofText cs)

/-- Whether a value ends before the text breaks off, so that it can be passed over. -/
def isWhole : Draft → Bool
  | .array _ closed => closed
  | .object _ closed => closed
  | .broken => false
  | _ => true

mutual

/-- The value of a draft, unless it breaks off, has a flaw, or nests more than `room` deep. -/
def toJson? (room : Nat) : Draft → Option Json
  | .null => some .null
  | .bool b => some (.bool b)
  | .number n => n.map .number
  | .string s => s.map .string
  | .array items closed =>
    if room = 0 ∨ !closed then none else (itemsToJson? (room - 1) items).map .array
  | .object members closed =>
    if room = 0 ∨ !closed then none else (membersToJson? (room - 1) members).map ofMembers
  | .broken => none

/-- The values of an array's items. -/
def itemsToJson? (room : Nat) : List Draft → Option (List Json)
  | [] => some []
  | d :: rest => do
    let v ← toJson? room d
    let vs ← itemsToJson? room rest
    pure (v :: vs)

/-- The members of an object, in the order of the text. -/
def membersToJson? (room : Nat) : List (Option String × Draft) → Option (List (String × Json))
  | [] => some []
  | (k, d) :: rest => do
    let key ← k
    let v ← toJson? room d
    let ms ← membersToJson? room rest
    pure ((key, v) :: ms)

end

end Draft

/-- The number of arrays and objects that may be open at once in a text. -/
def nestingLimit : Nat := 127

/-- The value of a JSON text. -/
def read? (cs : List Char) : Option Json :=
  match Draft.readText cs with
  | .complete d => d.toJson? nestingLimit
  | _ => none

end Rulebook.Json
