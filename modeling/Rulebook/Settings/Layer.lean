import Rulebook.Settings.Setting
import Rulebook.Text.Split

/-!
# Layers of settings

A layer gives settings under keys. A key may be a path: names with points between them, and the
places of items in brackets. The variables of the environment are a layer: a name that starts with
`RULE_`, in any case, goes on with a path whose points are written as two underscores, and a value
is a flag or a number if it reads as one.
-/

namespace Rulebook.Setting

/-- Settings under their keys. -/
abbrev Layer := List (String × Setting)

/-! ## Paths -/

/-- A character of a name on a path. -/
def isPathChar (c : Char) : Bool := c.isAlphanum || c = '_' || c = '-'

/-- The place that a text in brackets denotes, which may have blanks around it. -/
def place? (cs : List Char) : Option Int :=
  let isSpace (c : Char) := c = ' ' || c = '\t'
  let cs := ((cs.dropWhile isSpace).reverse.dropWhile isSpace).reverse
  let (negative, ds) := match cs with
    | '-' :: ds => (true, ds)
    | ds => (false, ds)
  ((Numeral.natural? ds).map fun n => if negative then -(n : Int) else n).filter isWord64

/-- The steps of a path behind its first name, read in at most `steps` steps. -/
def stepsFrom? : (steps : Nat) → List Char → Option (List Step)
  | _, [] => some []
  | 0, _ => none
  | steps + 1, '.' :: cs =>
    let name := cs.takeWhile isPathChar
    if name.isEmpty then none
    else (stepsFrom? steps (cs.drop name.length)).map (.key (String.ofList name) :: ·)
  | steps + 1, '[' :: cs =>
    let inner := cs.takeWhile (· ≠ ']')
    match cs.drop inner.length with
    | ']' :: rest => do
      let number ← place? inner
      pure (.place number :: (← stepsFrom? steps rest))
    | _ => none
  | _, _ => none

/-- The steps of a path; what is no path is one name. -/
def pathOf (key : String) : List Step :=
  (stepsFrom? (key.length + 1) ('.' :: key.toList)).getD [.key key]

/-- The settings with a layer over them. -/
def withLayer (settings : Setting) (l : Layer) : Setting :=
  l.foldl (fun s (key, value) => alter (fun old => onto old value) (pathOf key) s) settings

/-! ## Variables -/

/-- The setting that the value of a variable stands for. -/
def ofVariable (value : String) : Setting :=
  match Text.lower value with
  | "true" => .flag true
  | "false" => .flag false
  | _ =>
    match (signed? value.toList).filter isWord64 with
    | some i => .integer i
    | none =>
      match Double.read? value.toList with
      | some x => .real x
      | none => .text value

/-- The characters in which every pair of underscores is a point. -/
def withPoints : List Char → List Char
  | '_' :: '_' :: cs => '.' :: withPoints cs
  | c :: cs => c :: withPoints cs
  | [] => []

/-- What the names of the variables that are settings start with. -/
def variableStart : List Char := "rule_".toList

/-- The key and the setting that a variable gives. -/
def variableEntry? (name value : String) : Option (String × Setting) :=
  let cs := (Text.lower name).toList
  if variableStart.isPrefixOf cs then
    some (String.ofList (withPoints (cs.drop variableStart.length)), ofVariable value)
  else none

/-- The layer that variables give. -/
def variableLayer (vars : List (String × String)) : Layer :=
  vars.filterMap fun (name, value) => variableEntry? name value

end Rulebook.Setting
