import Rulebook.Number.Layout
import Rulebook.Text.Case

/-!
# Settings before they are converted

A setting is a scalar, a list or a table of settings, or nothing. Tables from several layers are
merged key by key, a later layer over an earlier one; anything but a table replaces what was there.
Where a setting is needed as a text, a port or a flag it is converted, if it can be.
-/

namespace Rulebook

/-- A setting as a layer gives it. -/
inductive Setting where
  | nothing
  | text (value : String)
  | flag (value : Bool)
  | integer (value : Int)
  | real (value : Double)
  | list (items : List Setting)
  | table (entries : List (String × Setting))

namespace Setting

/-! ## Parts -/

/-- The entries of a table; nothing else has any. -/
def entries : Setting → List (String × Setting)
  | .table es => es
  | _ => []

/-- The items of a list; nothing else has any. -/
def items : Setting → List Setting
  | .list items => items
  | _ => []

/-- The setting under a key of a table. -/
def child? (key : String) (s : Setting) : Option Setting := s.entries.lookup key

/-- The entries with the one under a key changed, which is nothing if it was absent. -/
def alterEntry (key : String) (f : Setting → Setting) :
    List (String × Setting) → List (String × Setting)
  | [] => [(key, f .nothing)]
  | (k, v) :: rest => if k = key then (k, f v) :: rest else (k, v) :: alterEntry key f rest

/-- The items with the one at a place changed. A place below zero is counted from the end. Nothing
is put behind the items, or in front of them, until there is such a place. -/
def alterItem (place : Int) (f : Setting → Setting) (items : List Setting) : List Setting :=
  if 0 ≤ place then
    (items ++ List.replicate (place.toNat + 1 - items.length) Setting.nothing).modify place.toNat f
  else
    (List.replicate (place.natAbs - items.length) Setting.nothing ++ items).modify
      (items.length - place.natAbs) f

/-- A step from a setting to a part of it. -/
inductive Step where
  | key (name : String)
  | place (number : Int)
  deriving DecidableEq, Repr

/-- A setting with the part at the end of a path changed. What a step by a key starts from becomes
a table, and what a step to a place starts from a list. -/
def alter (f : Setting → Setting) : List Step → Setting → Setting
  | [], s => f s
  | .key name :: path, s => .table (alterEntry name (alter f path) s.entries)
  | .place number :: path, s => .list (alterItem number (alter f path) s.items)

/-! ## Layers -/

mutual

/-- A setting over the one that was there. -/
def onto (existing : Setting) : Setting → Setting
  | .table es => .table (entriesOnto existing.entries es)
  | s => s

/-- The entries of a table over the entries that were there. -/
def entriesOnto (existing : List (String × Setting)) :
    List (String × Setting) → List (String × Setting)
  | [] => existing
  | (k, v) :: rest => entriesOnto (alterEntry k (fun old => onto old v) existing) rest

end

/-! ## Conversions -/

/-- The setting as a text. -/
def asText? : Setting → Option String
  | .text s => some s
  | .flag b => some (toString b)
  | .integer i => some (toString i)
  | .real x => some x.plain
  | _ => none

/-- The flag that a word stands for. -/
def wordFlag? (s : String) : Option Bool :=
  match Text.lower s with
  | "true" | "on" | "yes" => some true
  | "false" | "off" | "no" => some false
  | _ => none

/-- The integer that a row of digits with an optional sign denotes. -/
def signed? : List Char → Option Int
  | '-' :: ds => (Numeral.natural? ds).map fun n => -(n : Int)
  | ds => (Numeral.unsigned? ds).map fun n => (n : Int)

/-- An integer that 64 bits hold. -/
def isWord64 (i : Int) : Bool := -0x8000000000000000 ≤ i && i < 0x8000000000000000

/-- The whole number nearest to a double, a half away from zero; below zero and for a NaN it is
zero, and an infinity has none. -/
def nearestNat? : Double → Option Nat
  | .nan => some 0
  | .infinite negative => if negative then some 0 else none
  | .finite negative units _ =>
    if negative then some 0 else some ((2 * units + unitsPerOne) / (2 * unitsPerOne))

/-- The port with a number, if it is not too great. -/
def port? (n : Nat) : Option UInt16 := if n < 65536 then some (UInt16.ofNat n) else none

/-- The setting as a port. -/
def asPort? : Setting → Option UInt16
  | .text s =>
    match wordFlag? s with
    | some b => some (if b then 1 else 0)
    | none => (Numeral.unsigned? s.toList).bind port?
  | .flag b => some (if b then 1 else 0)
  | .integer i => if i < 0 then none else port? i.toNat
  | .real x => (nearestNat? x).bind port?
  | _ => none

/-- The setting as a flag. -/
def asFlag? : Setting → Option Bool
  | .text s =>
    match s with
    | "1" => some true
    | "0" => some false
    | s => wordFlag? s
  | .flag b => some b
  | .integer i => some (i ≠ 0)
  | .real x => some (!x.numEq .zero)
  | _ => none

/-- The setting as a list of texts. -/
def asTexts? : Setting → Option (List String)
  | .list items => items.mapM asText?
  | _ => none

end Setting

end Rulebook
