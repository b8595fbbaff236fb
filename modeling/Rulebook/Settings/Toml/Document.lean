import Rulebook.Settings.Toml.Value

/-!
# TOML documents

A document is a row of lines: a header that opens a table or adds one to a list, or a key with a
value.
-/

namespace Rulebook.Toml

/-- A document in the making: its tables, and the table that a header has opened last. -/
structure Document where
  entries : Entries
  current : List String

/-- Takes in a header, of which `cs` starts behind the brackets. -/
def Document.header? (opens : List String → String → Entries → Option Entries) (d : Document)
    (cs : List Char) : Option (Document × List Char) := do
  let (path, rest) ← key? (cs.length + 1) cs
  let entries ← opens path.dropLast (path.getLastD "") d.entries
  pure (⟨entries, path⟩, rest)

/-- Takes in a line with a header or with a key and its value; `cs` starts with neither a blank nor
the end of a line. -/
def Document.line? (d : Document) (cs : List Char) : Option (Document × List Char) :=
  match cs with
  | '[' :: '[' :: cs => do
    match ← d.header? addTable? cs with
    | (d, ']' :: ']' :: rest) => pure (d, ← lineEnd? rest)
    | _ => none
  | '[' :: cs => do
    match ← d.header? openTable? cs with
    | (d, ']' :: rest) => pure (d, ← lineEnd? rest)
    | _ => none
  | cs => do
    let (path, rest) ← key? cs.length cs
    match rest with
    | '=' :: rest => do
      let (value, rest) ← value? (rest.length + 1) depthLimit (skipSpaces rest)
      let entries ← within? (define? value path) d.current d.entries
      pure (⟨entries, d.current⟩, ← lineEnd? rest)
    | _ => none

/-- Takes in lines, in at most `steps` steps. -/
def Document.lines? : (steps : Nat) → Document → List Char → Option Document
  | 0, d, cs => if cs.isEmpty then some d else none
  | steps + 1, d, cs =>
    if cs.isEmpty then some d
    else match lineEnd? cs with
      | some rest => lines? steps d rest
      | none => do
        let (d, rest) ← d.line? (skipSpaces cs)
        lines? steps d rest

/-- The table that a document gives. A line takes at least one character, so a document has no more
lines than characters. -/
def read? (cs : List Char) : Option (List (String × Setting)) :=
  let cs := withoutMark cs
  (Document.lines? cs.length ⟨[], []⟩ cs).map fun d => entrySettings d.entries

end Rulebook.Toml
