import Rulebook.Json.Text
import Rulebook.Text.Quoted

/-!
# Values of the wrong shape

A reader that wants a value of some shape says what it met and what it expected.
-/

namespace Rulebook.Json

/-- Why a value does not have the shape that is wanted. -/
inductive Mismatch where
  /-- A value of another type. -/
  | wrongType (found expected : String)
  /-- A value of the right type that is out of place. -/
  | wrongValue (found expected : String)
  /-- An array of another length. -/
  | wrongLength (length : Nat) (expected : String)
  /-- A name that is none of the expected ones. -/
  | unknownVariant (name expected : String)
  /-- A member that is not there. -/
  | missingField (name : String)
  /-- A member that is there twice. -/
  | duplicateField (name : String)
  /-- A value that is none of the alternatives. -/
  | noAlternative (name : String)
  deriving DecidableEq, Repr

/-- What a mismatch is called in an answer. -/
def Mismatch.message : Mismatch → String
  | .wrongType found expected => s!"invalid type: {found}, expected {expected}"
  | .wrongValue found expected => s!"invalid value: {found}, expected {expected}"
  | .wrongLength length expected => s!"invalid length {length}, expected {expected}"
  | .unknownVariant name expected => s!"unknown variant `{name}`, expected {expected}"
  | .missingField name => s!"missing field `{name}`"
  | .duplicateField name => s!"duplicate field `{name}`"
  | .noAlternative name => s!"data did not match any variant of untagged enum {name}"

/-- What a number is called in a mismatch. -/
def Number.described : Number → String
  | .integer i h => s!"integer `{String.ofList (Number.integer i h).chars}`"
  | .real negative units h =>
    s!"floating point `{String.ofList (Number.real negative units h).chars}`"

/-- What a boolean is called in a mismatch. -/
def describedBool (b : Bool) : String := s!"boolean `{b}`"

/-- What a string is called in a mismatch. -/
def describedString (s : String) : String := s!"string {Text.quoted s}"

/-- What a value is called in a mismatch. -/
def described : Json → String
  | .null => "null"
  | .bool b => describedBool b
  | .number n => n.described
  | .string s => describedString s
  | .array _ => "sequence"
  | .object _ => "map"

/-- The text that a value is, if it is a string. -/
def asText : Json → Except Mismatch String
  | .string s => .ok s
  | v => .error (.wrongType v.described "a string")

end Rulebook.Json
