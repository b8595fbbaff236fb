import Rulebook.Settings.Setting

/-!
# The tables of a TOML document

No key is defined twice. A table has at most one header; what a dotted key has opened is only
extended by dotted keys of the same table; and a header in double brackets adds a table to a list,
of which only the last can be extended.
-/

namespace Rulebook.Toml

/-- How a table came about. -/
inductive Opening where
  /-- By its own header. -/
  | header
  /-- By the header of a table inside. -/
  | passage
  /-- By a dotted key. -/
  | dotted
  deriving DecidableEq

/-- A value, or tables in the making. -/
inductive Node where
  | value (setting : Setting)
  | table (opening : Opening) (entries : List (String × Node))
  /-- The tables of headers in double brackets. -/
  | tables (items : List (List (String × Node)))

/-- The nodes of a table under their keys. -/
abbrev Entries := List (String × Node)

/-- Changes the node under a key, which may be absent, unless the change fails. -/
def alter? (key : String) (f : Option Node → Option Node) : Entries → Option Entries
  | [] => (f none).map fun n => [(key, n)]
  | (k, n) :: rest =>
    if k = key then (f (some n)).map fun n => (k, n) :: rest
    else (alter? key f rest).map ((k, n) :: ·)

/-- Changes the last one of a list of tables, unless the change fails. -/
def alterLast? (f : Entries → Option Entries) : List Entries → Option (List Entries)
  | [] => none
  | [es] => (f es).map ([·])
  | es :: rest => (alterLast? f rest).map (es :: ·)

/-- Changes the table at the end of a path of a header, unless the change fails. -/
def within? (f : Entries → Option Entries) : (path : List String) → Entries → Option Entries
  | [], es => f es
  | key :: path, es => alter? key (fun
    | none => (within? f path []).map (.table .passage)
    | some (.table opening es) => (within? f path es).map (.table opening)
    | some (.tables items) => (alterLast? (within? f path) items).map .tables
    | some (.value _) => none) es

/-- Opens the table of a header. -/
def openTable? (path : List String) (key : String) : Entries → Option Entries :=
  within? (alter? key fun
    | none => some (.table .header [])
    | some (.table .passage es) => some (.table .header es)
    | some _ => none) path

/-- Adds a table by a header in double brackets. -/
def addTable? (path : List String) (key : String) : Entries → Option Entries :=
  within? (alter? key fun
    | none => some (.tables [[]])
    | some (.tables items) => some (.tables (items ++ [[]]))
    | some _ => none) path

/-- Defines a key, dotted or not, in a table. -/
def define? (value : Setting) : (path : List String) → Entries → Option Entries
  | [], _ => none
  | [key], es => alter? key (fun
    | none => some (.value value)
    | some _ => none) es
  | key :: path, es => alter? key (fun
    | none => (define? value path []).map (.table .dotted)
    | some (.table .dotted es) => (define? value path es).map (.table .dotted)
    | some _ => none) es

mutual

/-- The setting that a node stands for. -/
def Node.toSetting : Node → Setting
  | .value s => s
  | .table _ es => .table (entrySettings es)
  | .tables items => .list (tableSettings items)

/-- The settings that the entries of a table stand for. -/
def entrySettings : List (String × Node) → List (String × Setting)
  | [] => []
  | (key, n) :: rest => (key, n.toSetting) :: entrySettings rest

/-- The settings that the tables of a list stand for. -/
def tableSettings : List (List (String × Node)) → List Setting
  | [] => []
  | es :: rest => .table (entrySettings es) :: tableSettings rest

end

end Rulebook.Toml
