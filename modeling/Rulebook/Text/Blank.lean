import Rulebook.Text.Ranges

/-!
# White space

The Unicode property `White_Space`, and texts without it at their ends.
-/

namespace Rulebook.Text

/-- The code points with the property `White_Space`. -/
def whiteSpace : Ranges := ⟨#[
  (0x9, 0xD), (0x20, 0x20), (0x85, 0x85), (0xA0, 0xA0), (0x1680, 0x1680),
  (0x2000, 0x200A), (0x2028, 0x2029), (0x202F, 0x202F), (0x205F, 0x205F), (0x3000, 0x3000)]⟩

/-- A white-space character. -/
def isBlank (c : Char) : Bool := whiteSpace.contains c.toNat

/-- `cs` without the white space in front. -/
def trimStart (cs : List Char) : List Char := cs.dropWhile isBlank

/-- `cs` without the white space at its end. -/
def trimEnd (cs : List Char) : List Char := (cs.reverse.dropWhile isBlank).reverse

/-- `cs` without the white space at either end. -/
def trim (cs : List Char) : List Char := trimEnd (trimStart cs)

end Rulebook.Text
