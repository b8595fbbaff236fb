import Rulebook.Json.Token
import Rulebook.Text.Blank
import Rulebook.Text.Numeric

/-!
# Patterns

A log filter may compare the value of a field with a regular expression. `isPattern` says which
texts are regular expressions; a filter only has to know that. Such an expression has no word
boundaries but those of ASCII, and no counted repetitions, whose closing brace would end the field.
-/

namespace Rulebook.Pattern

open Text

/-- How the characters of a pattern are read. -/
structure Mode where
  /-- Blanks and comments are skipped. -/
  verbose : Bool
  /-- Classes hold characters beyond ASCII. -/
  unicode : Bool
  deriving DecidableEq, Repr

/-- The mode that a pattern starts in. -/
def Mode.start : Mode := ⟨false, true⟩

/-- What follows the blanks and comments that a mode skips; `inComment` says whether the text
starts inside a comment. -/
def Mode.skip (m : Mode) (inComment : Bool) : List Char → List Char
  | [] => []
  | c :: cs =>
    if !m.verbose then c :: cs
    else if inComment then m.skip (c ≠ '\n') cs
    else if c = '#' then m.skip true cs
    else if isBlank c then m.skip false cs
    else c :: cs

/-- What follows the blanks and comments in front. -/
abbrev Mode.next (m : Mode) (cs : List Char) : List Char := m.skip false cs

/-! ## Escapes -/

/-- What an escape stands for. -/
inductive Escape where
  /-- One character. -/
  | literal (char : Char)
  /-- One character of a class. -/
  | member
  /-- A place. -/
  | assertion
  deriving DecidableEq, Repr

/-- The number that so many hexadecimal digits denote, and what follows them. -/
def hexCode? (m : Mode) : (digits value : Nat) → List Char → Option (Nat × List Char)
  | 0, value, cs => some (value, cs)
  | digits + 1, value, cs =>
    match m.next cs with
    | c :: rest => (Json.Token.hexValue? c).bind fun d => hexCode? m digits (16 * value + d) rest
    | [] => none

/-- The character with a code of so many hexadecimal digits, and what follows it. -/
def hexEscape? (m : Mode) (digits : Nat) (cs : List Char) : Option (Escape × List Char) := do
  let (code, rest) ← hexCode? m digits 0 cs
  -- Two digits stand for a byte where classes are ASCII, and a byte beyond ASCII is no character.
  if code.isValidChar && (m.unicode || digits ≠ 2 || code < 0x80) then
    pure (.literal (Char.ofNat code), rest)
  else none

/-- The letters of the general categories of characters. -/
def categories : List Char := "CLMNPSZ".toList

/-- The escape behind a backslash, and what follows it. -/
def escape? (m : Mode) : List Char → Option (Escape × List Char)
  | [] => none
  | c :: cs =>
    if c = 'x' then hexEscape? m 2 cs
    else if c = 'u' then hexEscape? m 4 cs
    else if c = 'U' then hexEscape? m 8 cs
    else if c = 'p' || c = 'P' then
      match m.next cs with
      | k :: rest =>
        if m.unicode && categories.contains k.toUpper then some (.member, rest) else none
      | [] => none
    else if "dsw".toList.contains c then some (.member, cs)
    else if "DSW".toList.contains c then if m.unicode then some (.member, cs) else none
    else if "Az".toList.contains c then some (.assertion, cs)
    else if "bB<>".toList.contains c then if m.unicode then none else some (.assertion, cs)
    else match c with
      | 'a' => some (.literal '\x07', cs)
      | 'f' => some (.literal '\x0c', cs)
      | 'n' => some (.literal '\n', cs)
      | 'r' => some (.literal '\r', cs)
      | 't' => some (.literal '\t', cs)
      | 'v' => some (.literal '\x0b', cs)
      | c => if c.isAlphanum || 0x80 ≤ c.toNat then none else some (.literal c, cs)

/-! ## Classes -/

/-- The names of the classes that brackets and colons enclose. -/
def classNames : List String :=
  ["alnum", "alpha", "ascii", "blank", "cntrl", "digit", "graph", "lower", "print", "punct",
    "space", "upper", "word", "xdigit"]

/-- What follows the name of a class and the colon and the bracket behind it. -/
def className? (cs : List Char) : Option (List Char) :=
  let name := cs.takeWhile (· ≠ ':')
  match cs.drop name.length with
  | ':' :: ']' :: rest => if classNames.contains (String.ofList name) then some rest else none
  | _ => none

/-- What follows a named class, of which `cs` starts behind the bracket. -/
def namedClass? : List Char → Option (List Char)
  | ':' :: '^' :: cs => className? cs
  | ':' :: cs => className? cs
  | _ => none

/-- What follows the hyphens or the bracket at the start of a class that stand for themselves. -/
def classMarks : List Char → List Char
  | ']' :: cs => cs
  | cs => cs.dropWhile (· = '-')

/-- What follows the start of a class: a caret, and hyphens or a bracket that stand for themselves.
The classes of ASCII are not negated, as they would hold bytes that are no characters. -/
def classStart? (m : Mode) (cs : List Char) : Option (List Char) :=
  let cs := m.next cs
  let inner := match cs with
    | '^' :: rest => m.next rest
    | cs => cs
  if !m.unicode && cs.head? = some '^' then none else some (classMarks inner)

/-- One member of a class, and what follows it. -/
def member? (m : Mode) : List Char → Option (Escape × List Char)
  | [] => none
  | '\\' :: cs => (escape? m cs).filter fun (e, _) => e ≠ .assertion
  | c :: cs => if m.unicode || c.toNat < 0x80 then some (.literal c, cs) else none

/-- What follows one member of a class or a range of them. -/
def range? (m : Mode) (cs : List Char) : Option (List Char) := do
  let (first, rest) ← member? m cs
  match m.next rest with
  | '-' :: more =>
    match m.next more with
    | [] => none
    | c :: after =>
      if c = ']' || c = '-' then pure ('-' :: more)
      else match first, ← member? m (c :: after) with
        | .literal a, (.literal b, rest) => if a ≤ b then pure rest else none
        | _, _ => none
  | rest => pure rest

/-- What follows a class that starts in `cs`, inside so many others, read in at most `steps`
steps. -/
def class? (m : Mode) : (steps outer : Nat) → List Char → Option (List Char)
  | 0, _, _ => none
  | steps + 1, outer, cs =>
    match m.next cs with
    | [] => none
    | '[' :: rest =>
      match namedClass? rest with
      | some rest => class? m steps outer rest
      | none => (classStart? m rest).bind (class? m steps (outer + 1))
    | ']' :: rest =>
      match outer with
      | 0 => some rest
      | outer + 1 => class? m steps outer rest
    | c :: rest =>
      if rest.head? = some c && (c = '&' || c = '-' || c = '~') then
        class? m steps outer (rest.drop 1)
      else (range? m (c :: rest)).bind (class? m steps outer)

/-! ## Groups -/

/-- The mode behind flags. Each flag is named once, and a hyphen turns off those behind it. -/
def Mode.withFlags? (m : Mode) (flags : List Char) : Option Mode :=
  if !flags.Nodup || !flags.all "imsUuRx-".toList.contains || flags.getLast? = some '-' then none
  else
    let on := flags.takeWhile (· ≠ '-')
    let set (flag : Char) (old : Bool) := on.contains flag || (old && !flags.contains flag)
    some ⟨set 'x' m.verbose, set 'u' m.unicode⟩

/-- Whether a text names a group. -/
def isGroupName : List Char → Bool
  | [] => false
  | c :: cs => (c = '_' || alphabetic.contains c.toNat) &&
    cs.all fun c => "_.[]".toList.contains c || isAlphanumeric c

/-- How a group opens. -/
inductive Opening where
  /-- Flags that hold to the end of the group around them. -/
  | flags (mode : Mode)
  /-- A group, which may have a name. -/
  | group (mode : Mode) (name : List Char)

/-- How the group opens of which `cs` starts with the name, and what follows that. -/
def named? (m : Mode) (cs : List Char) : Option (Opening × List Char) :=
  let name := cs.takeWhile (· ≠ '>')
  match cs.drop name.length with
  | '>' :: rest => if isGroupName name then some (.group m name, rest) else none
  | _ => none

/-- How the group opens of which `cs` starts behind the parenthesis, and what follows that. -/
def opening? (m : Mode) (cs : List Char) : Option (Opening × List Char) :=
  match m.next cs with
  | '?' :: 'P' :: '<' :: rest => named? m rest
  | '?' :: '<' :: rest => named? m rest
  | '?' :: rest => do
    let flags := rest.takeWhile fun c => c ≠ ':' && c ≠ ')'
    let inner ← m.withFlags? flags
    match rest.drop flags.length with
    | ':' :: rest => pure (.group inner [], rest)
    | ')' :: rest => if flags.isEmpty then none else pure (.flags inner, rest)
    | _ => none
  | rest => some (.group m [], rest)

/-! ## Patterns -/

/-- What is known at a place of a pattern: the mode, those of the groups around it, the names of
the groups so far, and whether something precedes that can be repeated. -/
structure Place where
  mode : Mode
  outer : List Mode
  names : List (List Char)
  isRepeatable : Bool

/-- Whether a pattern goes on so from a place, read in at most `steps` steps. -/
def goesOn : (steps : Nat) → Place → List Char → Bool
  | 0, _, _ => false
  | steps + 1, p, cs =>
    let item := { p with isRepeatable := true }
    match p.mode.next cs with
    | [] => p.outer.isEmpty
    | '(' :: rest =>
      match opening? p.mode rest with
      | none => false
      | some (.flags mode, rest) => goesOn steps { p with mode, isRepeatable := false } rest
      | some (.group mode name, rest) =>
        if !name.isEmpty && p.names.contains name then false
        else
          let names := if name.isEmpty then p.names else name :: p.names
          goesOn steps ⟨mode, p.mode :: p.outer, names, false⟩ rest
    | ')' :: rest =>
      match p.outer with
      | [] => false
      | mode :: outer => goesOn steps { item with mode, outer } rest
    | '|' :: rest => goesOn steps { p with isRepeatable := false } rest
    | '[' :: rest =>
      match (classStart? p.mode rest).bind (class? p.mode steps 0) with
      | some rest => goesOn steps item rest
      | none => false
    | '\\' :: rest =>
      match escape? p.mode rest with
      | some (_, rest) => goesOn steps item rest
      | none => false
    | '\x7b' :: _ => false
    | '.' :: rest => p.mode.unicode && goesOn steps item rest
    | c :: rest =>
      if c = '?' || c = '*' || c = '+' then
        p.isRepeatable && goesOn steps item (if rest.head? = some '?' then rest.drop 1 else rest)
      else goesOn steps item rest

/-- Whether a text is a pattern. Each step takes a character, so there are no more steps than
characters and the end. -/
def isPattern (cs : List Char) : Bool := goesOn (cs.length + 1) ⟨.start, [], [], false⟩ cs

end Rulebook.Pattern
