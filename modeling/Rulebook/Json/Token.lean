import Rulebook.Json.Basic
import Rulebook.Number.Scaled

/-!
# The tokens of a JSON text

A text is cut into tokens up to the first place where it is no JSON. Two flaws do not end it: a
string with half a surrogate pair and a number beyond the doubles are tokens without a value, for
a reader that passes over them does not mind.
-/

namespace Rulebook.Json

/-- A token of a JSON text; `bad` stands where the text is no JSON. -/
inductive Token where
  | openBrace
  | closeBrace
  | openBracket
  | closeBracket
  | comma
  | colon
  | null
  | bool (value : Bool)
  | number (value : Option Number)
  | string (value : Option String)
  | bad

namespace Token

open Text

/-- A white-space character of JSON. -/
def isSpace (c : Char) : Bool := c = ' ' || c = '\n' || c = '\t' || c = '\r'

/-- The value of a hexadecimal digit. -/
def hexValue? (c : Char) : Option Nat :=
  if isAsciiDigit c then some (digitValue c)
  else if 'a' ≤ c ∧ c ≤ 'f' then some (c.toNat - 'a'.toNat + 10)
  else if 'A' ≤ c ∧ c ≤ 'F' then some (c.toNat - 'A'.toNat + 10)
  else none

/-- The code written as four hexadecimal digits. -/
def code? (a b c d : Char) : Option Nat := do
  pure (((← hexValue? a) * 16 + (← hexValue? b)) * 256 + (← hexValue? c) * 16 + (← hexValue? d))

/-- The character that follows a backslash in a two-character escape, and what it stands for. -/
def unescape? : Char → Option Char
  | '"' => some '"'
  | '\\' => some '\\'
  | '/' => some '/'
  | 'b' => some '\x08'
  | 'f' => some '\x0c'
  | 'n' => some '\n'
  | 'r' => some '\r'
  | 't' => some '\t'
  | _ => none

/-- A piece of a string: a character, or a 16-bit code given by number. -/
inductive Piece where
  | char (c : Char)
  | code (n : Nat)

/-- The pieces of a string up to its closing quote, and what follows the quote. -/
def pieces? : List Char → Option (List Piece × List Char)
  | [] => none
  | '"' :: rest => some ([], rest)
  | '\\' :: 'u' :: a :: b :: c :: d :: rest => do
    let n ← code? a b c d
    let (ps, after) ← pieces? rest
    pure (.code n :: ps, after)
  | '\\' :: e :: rest => do
    let c ← unescape? e
    let (ps, after) ← pieces? rest
    pure (.char c :: ps, after)
  | c :: rest =>
    if c.toNat < 0x20 ∨ c = '\\' then none
    else (pieces? rest).map fun (ps, after) => (.char c :: ps, after)

/-- The first code of a surrogate pair. -/
def isHigh (n : Nat) : Bool := 0xD800 ≤ n && n < 0xDC00

/-- The second code of a surrogate pair. -/
def isLow (n : Nat) : Bool := 0xDC00 ≤ n && n < 0xE000

/-- The characters that pieces stand for; half a surrogate pair stands for none. -/
def joined? : List Piece → Option (List Char)
  | [] => some []
  | .char c :: rest => (joined? rest).map (c :: ·)
  | .code h :: .code l :: rest =>
    if isHigh h then
      if isLow l then
        (joined? rest).map (Char.ofNat (0x10000 + (h - 0xD800) * 0x400 + (l - 0xDC00)) :: ·)
      else none
    else if isLow h then none
    else (joined? (.code l :: rest)).map (Char.ofNat h :: ·)
  | .code n :: rest =>
    if isHigh n || isLow n then none else (joined? rest).map (Char.ofNat n :: ·)

/-- The fraction part of a number, empty if no point follows; a point needs a digit. -/
def fraction? : List Char → Option (List Char × List Char)
  | '.' :: cs =>
    if (cs.takeWhile isAsciiDigit).isEmpty then none
    else some (cs.takeWhile isAsciiDigit, cs.dropWhile isAsciiDigit)
  | cs => some ([], cs)

/-- The exponent part of a number, if there is one; its letter needs a digit. -/
def exponent? : List Char → Option (Option Int × List Char)
  | c :: cs =>
    if c = 'e' ∨ c = 'E' then
      let (negative, ds) := Numeral.sign cs
      let digits := ds.takeWhile isAsciiDigit
      if digits.isEmpty then none
      else
        let n : Int := Numeral.natValue digits
        some (some (if negative then -n else n), ds.dropWhile isAsciiDigit)
    else some (none, c :: cs)
  | [] => some (none, [])

/-- The value of a number from its parts: an integer of 64 bits has neither fraction nor exponent,
minus zero is a double, and every other double is read by scaling. -/
def numberValue (negative : Bool) (whole frac : List Char) (exponent : Option Int) :
    Option Number :=
  let n := Numeral.natValue whole
  if frac = [] ∧ exponent = none ∧ n < Scaled.wordLimit then
    if negative ∧ n = 0 then Number.ofDouble? (Double.ofRatio true 0 1)
    else Number.ofInt? (if negative then -(n : Int) else n)
  else Number.ofDouble? (Scaled.read negative whole frac (exponent.getD 0))

/-- Reads an unsigned number: no zero stands in front of another digit. -/
def unsigned? (negative : Bool) (cs : List Char) : Option (Token × List Char) := do
  let whole := cs.takeWhile isAsciiDigit
  if whole.isEmpty ∨ (whole.length ≠ 1 ∧ whole.head? = some '0') then none
  let (frac, rest) ← fraction? (cs.dropWhile isAsciiDigit)
  let (exponent, rest) ← exponent? rest
  pure (.number (numberValue negative whole frac exponent), rest)

/-- `rest` behind the word, if `cs` starts with it. -/
def afterWord? (word cs : List Char) : Option (List Char) :=
  if word.isPrefixOf cs then some (cs.drop word.length) else none

/-- The token that starts with `c`, and what follows it. -/
def next? (c : Char) (cs : List Char) : Option (Token × List Char) :=
  match c with
  | '\x7b' => some (.openBrace, cs)
  | '\x7d' => some (.closeBrace, cs)
  | '[' => some (.openBracket, cs)
  | ']' => some (.closeBracket, cs)
  | ',' => some (.comma, cs)
  | ':' => some (.colon, cs)
  | 'n' => (afterWord? "ull".toList cs).map (.null, ·)
  | 't' => (afterWord? "rue".toList cs).map (.bool true, ·)
  | 'f' => (afterWord? "alse".toList cs).map (.bool false, ·)
  | '"' => (pieces? cs).map fun (ps, rest) => (.string ((joined? ps).map String.ofList), rest)
  | '-' => unsigned? true cs
  | c => unsigned? false (c :: cs)

/-- The tokens of a text, cut in at most `steps` steps. -/
def scan : (steps : Nat) → List Char → List Token
  | 0, _ => []
  | _, [] => []
  | steps + 1, c :: cs =>
    if isSpace c then scan steps cs
    else match next? c cs with
      | none => [.bad]
      | some (t, rest) => t :: scan steps rest

/-- The tokens of a text, up to the first place where it is no JSON. A step takes at least one
character, so a text is cut in as many steps as it has characters. -/
def ofText (cs : List Char) : List Token := scan cs.length cs

end Token

end Rulebook.Json
