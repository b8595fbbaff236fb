import Rulebook.Json.Draft
import Rulebook.Settings.Basic
import Rulebook.Settings.Layer
import Rulebook.Settings.Toml.Document

/-!
# The folder of the settings

The files of settings lie in one folder, and each holds a layer. The extension of a file says in
which format its document is written; one without a known extension gives nothing. Where no file
has the name that is wanted, one with the extension of a format behind that name stands in.
-/

namespace Rulebook.Setting

/-! ## Formats -/

mutual

/-- The setting that a JSON value stands for. -/
def ofJson : Json → Setting
  | .null => .nothing
  | .bool b => .flag b
  | .number (.integer i _) => if isWord64 i then .integer i else .real (Double.ofInt i)
  | .number (.real negative units h) => .real (.finite negative units h)
  | .string s => .text s
  | .array items => .list (ofJsonItems items)
  | .object members => .table (ofJsonMembers members)

/-- The settings that the items of an array stand for. -/
def ofJsonItems : List Json → List Setting
  | [] => []
  | v :: rest => ofJson v :: ofJsonItems rest

/-- The settings that the members of an object stand for. -/
def ofJsonMembers : List (String × Json) → List (String × Setting)
  | [] => []
  | (key, v) :: rest => (key, ofJson v) :: ofJsonMembers rest

end

/-- A format of documents. -/
inductive Format where
  | toml
  | json
  deriving DecidableEq, Repr

namespace Format

/-- The formats, those that are preferred first. -/
def all : List Format := [.toml, .json]

/-- The extension of a file with a document of a format. -/
def extension : Format → String
  | .toml => "toml"
  | .json => "json"

/-- The layer that a document gives. -/
def read? : Format → List Char → Option Layer
  | .toml, cs => Toml.read? cs
  | .json, cs =>
    match Json.read? cs with
    | some (.object members) => some (ofJsonMembers members)
    | _ => none

end Format

/-! ## Files -/

/-- Files by name, with what they hold. -/
abbrev Folder := List (String × String)

namespace Folder

/-- The name of the file in the folder that a path leads to; a path that leads elsewhere has
none. -/
def name? (path : String) : Option String :=
  let parts := Text.split '/' path.toList
  if parts.dropLast.all fun part => part = [] || part = ['.'] then
    if path.toList.head? = some '/' then none else parts.getLast?.map String.ofList
  else none

/-- What the file holds that has a name. -/
def get? (folder : Folder) (name : String) : Option String :=
  (folder.find? fun file => name? file.1 = some name).map (·.2)

/-- The format that the extension of a name tells. A point at its start is no extension. -/
def format? (name : String) : Option Format :=
  Format.all.find? fun f => (('.' :: f.extension.toList).isSuffixOf name.toList) &&
    f.extension.length + 1 < name.length

/-- The document that a path leads to, and its format. -/
def document? (folder : Folder) (path : String) : Option (Format × String) := do
  let name ← name? path
  match folder.get? name with
  | some contents => (format? name).map (·, contents)
  | none => Format.all.findSome? fun f =>
    (folder.get? (name ++ "." ++ f.extension)).map (f, ·)

/-- The layer of the document that a path leads to; one that is not there gives nothing. -/
def layer (folder : Folder) (path : String) : Except SettingsError Layer :=
  match folder.document? path with
  | none => .ok []
  | some (format, contents) =>
    match format.read? (Toml.withoutMark contents.toList) with
    | some l => .ok l
    | none => .error (.badFile path)

end Folder

end Rulebook.Setting
