import Rulebook.Settings.Toml.Moment
import Rulebook.Settings.Toml.Number
import Rulebook.Settings.Toml.Quoted
import Rulebook.Settings.Toml.Table

/-!
# Values of a TOML document

A value is a string, a word, or brackets around values: an array, or a table of keys with values.
Inside brackets, line breaks and comments may stand between the parts, and a comma may end the last
one.
-/

namespace Rulebook.Toml

/-- How deep brackets nest. -/
def depthLimit : Nat := 80

/-- A character of a word. -/
def isWordChar (c : Char) : Bool := isBare c || c = '+' || c = '.' || c = ':'

/-- The word in front. A blank may stand between a date and a time. -/
def wordOf (cs : List Char) : List Char :=
  let word := cs.takeWhile isWordChar
  match afterDate? word, cs.drop word.length with
  | some [], ' ' :: c :: rest =>
    if Text.isAsciiDigit c then word ++ ' ' :: (c :: rest).takeWhile isWordChar else word
  | _, _ => word

/-- A number, a flag, a date or a time, and what follows it. -/
def wordValue? (cs : List Char) : Option (Setting × List Char) :=
  let word := wordOf cs
  ((word? word).or ((moment? word).map fun text => .text (String.ofList text))).map
    fun value => (value, cs.drop word.length)

mutual

/-- A value and what follows it, with brackets at most `depth` deep and in at most `steps` steps. -/
def value? : (steps depth : Nat) → List Char → Option (Setting × List Char)
  | 0, _, _ => none
  | steps + 1, depth, cs =>
    match cs, depth with
    | '[' :: rest, depth + 1 =>
      (items? steps depth rest).map fun (items, rest) => (.list items, rest)
    | '\x7b' :: rest, depth + 1 =>
      (pairs? steps depth [] rest).map fun (es, rest) => (.table (entrySettings es), rest)
    | '"' :: _, _ => (string? cs).map fun (s, rest) => (.text (String.ofList s), rest)
    | '\'' :: _, _ => (string? cs).map fun (s, rest) => (.text (String.ofList s), rest)
    | _, _ => wordValue? cs

/-- The items of an array up to its end, and what follows it. -/
def items? : (steps depth : Nat) → List Char → Option (List Setting × List Char)
  | 0, _, _ => none
  | steps + 1, depth, cs =>
    match skipGap cs.length cs with
    | ']' :: rest => some ([], rest)
    | cs => do
      let (item, rest) ← value? steps depth cs
      match skipGap rest.length rest with
      | ']' :: rest => pure ([item], rest)
      | ',' :: rest => do
        let (items, rest) ← items? steps depth rest
        pure (item :: items, rest)
      | _ => none

/-- The entries of a table up to its end, behind those so far, and what follows it. -/
def pairs? : (steps depth : Nat) → Entries → List Char → Option (Entries × List Char)
  | 0, _, _, _ => none
  | steps + 1, depth, es, cs =>
    match skipGap cs.length cs with
    | '\x7d' :: rest => some (es, rest)
    | cs => do
      let (path, rest) ← key? cs.length cs
      match rest with
      | '=' :: rest => do
        let (value, rest) ← value? steps depth (skipSpaces rest)
        let es ← define? value path es
        match skipGap rest.length rest with
        | '\x7d' :: rest => pure (es, rest)
        | ',' :: rest => pairs? steps depth es rest
        | _ => none
      | _ => none

end

end Rulebook.Toml
