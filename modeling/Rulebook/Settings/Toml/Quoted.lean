import Rulebook.Json.Token
import Rulebook.Settings.Toml.Space

/-!
# Strings and keys of a TOML document

A string between double quotes has escapes, one between single quotes has none. Three quotes open a
string of several lines. A key is a row of parts with points between them, each of which is bare or
a string of one line.
-/

namespace Rulebook.Toml

/-! ## Escapes -/

/-- The number of hexadecimal digits that follow the letter of an escape. -/
def codeLength? : Char → Option Nat
  | 'x' => some 2
  | 'u' => some 4
  | 'U' => some 8
  | _ => none

/-- The character with a code, unless it is none. -/
def charOf? (n : Nat) : Option Char := if n.isValidChar then some (Char.ofNat n) else none

/-- What an escape with a letter stands for. -/
def unescape? : Char → Option Char
  | '/' => none
  | 'e' => some '\x1b'
  | c => Json.Token.unescape? c

/-- The character of an escape behind its backslash, and what follows it. -/
def escape? : List Char → Option (Char × List Char)
  | [] => none
  | e :: rest =>
    match codeLength? e with
    | none => (unescape? e).map (·, rest)
    | some n => do
      let digits ← (rest.take n).mapM Json.Token.hexValue?
      if digits.length = n then
        (charOf? (digits.foldl (fun m d => 16 * m + d) 0)).map (·, rest.drop n)
      else none

/-! ## Strings of one line -/

/-- The characters up to the closing double quote, and what follows it, in at most `steps`
steps. -/
def quoted? : (steps : Nat) → List Char → Option (List Char × List Char)
  | 0, _ => none
  | _, [] => none
  | _, '"' :: rest => some ([], rest)
  | steps + 1, '\\' :: rest => do
    let (c, rest) ← escape? rest
    let (cs, after) ← quoted? steps rest
    pure (c :: cs, after)
  | steps + 1, c :: rest =>
    if isShown c then (quoted? steps rest).map fun (cs, after) => (c :: cs, after) else none

/-- The characters up to the closing single quote, and what follows it. -/
def literal? (cs : List Char) : Option (List Char × List Char) :=
  let body := cs.takeWhile fun c => isShown c && c ≠ '\''
  match cs.drop body.length with
  | '\'' :: rest => some (body, rest)
  | _ => none

/-- A string of one line, and what follows it. -/
def lineString? : List Char → Option (List Char × List Char)
  | '"' :: cs => quoted? (cs.length + 1) cs
  | '\'' :: cs => literal? cs
  | _ => none

/-! ## Strings of several lines -/

/-- The quotes at the end of a string that are its own, and what follows it, if three quotes close
it here. At most two more stand in front of the closing ones. -/
def closing? (quote : Char) (cs : List Char) : Option (List Char × List Char) :=
  let quotes := (cs.takeWhile (· = quote)).take 5
  if quotes.length < 3 then none else some (quotes.drop 3, cs.drop quotes.length)

/-- What a string goes on with behind a backslash at the end of a line. -/
def continued? (cs : List Char) : Option (List Char) :=
  (afterBreak? (skipSpaces cs)).map skipBlankLines

/-- One character or line break, and what follows it. -/
def shown? : List Char → Option (List Char × List Char)
  | '\r' :: '\n' :: rest => some (['\r', '\n'], rest)
  | c :: rest => if isShown c || c = '\n' then some ([c], rest) else none
  | [] => none

/-- One character, an escape or the end of a line, and what follows it. -/
def piece? (quote : Char) (cs : List Char) : Option (List Char × List Char) :=
  match quote, cs with
  | '"', '\\' :: rest =>
    match continued? rest with
    | some rest => some ([], rest)
    | none => (escape? rest).map fun (c, rest) => ([c], rest)
  | _, cs => shown? cs

/-- The characters up to three closing quotes, and what follows them, in at most `steps` steps. -/
def lines? (quote : Char) : (steps : Nat) → List Char → Option (List Char × List Char)
  | 0, _ => none
  | steps + 1, cs =>
    match closing? quote cs with
    | some closed => some closed
    | none => do
      let (piece, rest) ← piece? quote cs
      let (others, after) ← lines? quote steps rest
      pure (piece ++ others, after)

/-- A string of several lines behind its opening quotes, and what follows it. A line break right
behind them is left out. -/
def linesString? (quote : Char) (cs : List Char) : Option (List Char × List Char) :=
  lines? quote (cs.length + 1) ((afterBreak? cs).getD cs)

/-- A string, and what follows it. -/
def string? : List Char → Option (List Char × List Char)
  | '"' :: '"' :: '"' :: cs => linesString? '"' cs
  | '\'' :: '\'' :: '\'' :: cs => linesString? '\'' cs
  | cs => lineString? cs

/-! ## Keys -/

/-- A character of a bare key. -/
def isBare (c : Char) : Bool := c.isAlphanum || c = '_' || c = '-'

/-- A part of a key, and what follows it. -/
def keyPart? (cs : List Char) : Option (String × List Char) :=
  let bare := cs.takeWhile isBare
  if bare.isEmpty then (lineString? cs).map fun (part, rest) => (String.ofList part, rest)
  else some (String.ofList bare, cs.drop bare.length)

/-- A key, and what follows it and the blanks behind it, in at most `steps` steps. -/
def key? : (steps : Nat) → List Char → Option (List String × List Char)
  | 0, _ => none
  | steps + 1, cs => do
    let (part, rest) ← keyPart? (skipSpaces cs)
    match skipSpaces rest with
    | '.' :: rest => do
      let (parts, rest) ← key? steps rest
      pure (part :: parts, rest)
    | rest => pure ([part], rest)

end Rulebook.Toml
