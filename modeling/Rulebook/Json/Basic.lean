import Rulebook.Number.Layout

/-!
# JSON values

The data that rules are evaluated on and that the service speaks. A number is an integer where one
of 64 bits, signed or not, can hold it, and a finite double otherwise. An object is the list of its
members as they are written; `Json.ofMembers` gives the list that a text is read to, in ascending
order of the keys and each key once.
-/

namespace Rulebook

/-- A JSON number. -/
inductive Json.Number where
  | integer (value : Int) (inRange : -0x8000000000000000 ≤ value ∧ value < 0x10000000000000000)
  | real (negative : Bool) (units : Nat) (representable : Representable units)

/-- A JSON value. -/
inductive Json where
  | null
  | bool (value : Bool)
  | number (value : Json.Number)
  | string (value : String)
  | array (items : List Json)
  | object (members : List (String × Json))

namespace Json

/-- The double nearest to a number. -/
def Number.toDouble : Number → Double
  | .integer value _ => Double.ofInt value
  | .real negative units h => .finite negative units h

/-- The number for an integer, as a double if 64 bits do not hold it. -/
def Number.ofInt? (i : Int) : Option Number :=
  if h : -0x8000000000000000 ≤ i ∧ i < 0x10000000000000000 then some (.integer i h)
  else match Double.ofInt i with
    | .finite negative units h => some (.real negative units h)
    | _ => none

/-- The number for a double; JSON has none for a NaN or an infinity. -/
def Number.ofDouble? : Double → Option Number
  | .finite negative units h => some (.real negative units h)
  | _ => none

/-- The members with `value` under `key`, in ascending order if they were. -/
def insertMember (key : String) (value : Json) : List (String × Json) → List (String × Json)
  | [] => [(key, value)]
  | (k, v) :: rest =>
    if key < k then (key, value) :: (k, v) :: rest
    else if key = k then (key, value) :: rest
    else (k, v) :: insertMember key value rest

/-- The object with the given members; of several with one key the last is kept. -/
def ofMembers (members : List (String × Json)) : Json :=
  .object (members.foldl (fun ms m => insertMember m.1 m.2 ms) [])

/-- The value under a key. -/
def member? (key : String) (members : List (String × Json)) : Option Json := members.lookup key

end Json

end Rulebook
