import Rulebook.Json.Basic

/-!
# JSON text

The compact text of a value: no space outside strings. A string escapes its quotes, its
backslashes and the controls below U+0020, and nothing else.
-/

namespace Rulebook.Json

/-- The four hexadecimal digits, in lower case, of a code below `16^4`. -/
def hex4 (n : Nat) : List Char :=
  [n / 4096, n / 256 % 16, n / 16 % 16, n % 16].map Nat.digitChar

/-- The characters that stand for `c` inside a string. -/
def escaped (c : Char) : List Char :=
  match c with
  | '"' => ['\\', '"']
  | '\\' => ['\\', '\\']
  | '\x08' => ['\\', 'b']
  | '\t' => ['\\', 't']
  | '\n' => ['\\', 'n']
  | '\x0c' => ['\\', 'f']
  | '\r' => ['\\', 'r']
  | c => if c.toNat < 0x20 then '\\' :: 'u' :: hex4 c.toNat else [c]

/-- The text of a string. -/
def stringChars (s : String) : List Char := '"' :: (s.toList.flatMap escaped ++ ['"'])

/-- The decimal text of an integer. -/
def intChars (i : Int) : List Char :=
  (if i < 0 then ['-'] else []) ++ Nat.toDigits 10 i.natAbs

/-- The text of a number. -/
def Number.chars : Number → List Char
  | .integer i _ => intChars i
  | .real negative units h => (Double.shortest .even negative units h).interchange

mutual

/-- The compact text of a value. -/
def chars : Json → List Char
  | .null => "null".toList
  | .bool true => "true".toList
  | .bool false => "false".toList
  | .number n => n.chars
  | .string s => stringChars s
  | .array items => '[' :: (itemChars true items ++ [']'])
  | .object members => '\x7b' :: (memberChars true members ++ ['\x7d'])

/-- The texts of an array's items, with a comma in front of each but the `first`. -/
def itemChars (first : Bool) : List Json → List Char
  | [] => []
  | v :: rest => (if first then [] else [',']) ++ chars v ++ itemChars false rest

/-- The texts of an object's members, with a comma in front of each but the `first`. -/
def memberChars (first : Bool) : List (String × Json) → List Char
  | [] => []
  | (k, v) :: rest =>
    (if first then [] else [',']) ++ stringChars k ++ ':' :: (chars v ++ memberChars false rest)

end

/-- The compact text of a value. -/
def text (v : Json) : String := String.ofList v.chars

end Rulebook.Json
