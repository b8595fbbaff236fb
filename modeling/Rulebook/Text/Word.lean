import Rulebook.Text.Alphabetic
import Rulebook.Text.Digit
import Rulebook.Text.Mark

/-!
# Word characters

The characters of a field name: letters, marks, digits, connectors such as `_`, and the two
joiners that letters of some scripts need between them.
-/

namespace Rulebook.Text

/-- The code points of the general category `Connector_Punctuation`. -/
def connector : Ranges := ⟨#[
  (0x5F, 0x5F), (0x203F, 0x2040), (0x2054, 0x2054), (0xFE33, 0xFE34), (0xFE4D, 0xFE4F),
  (0xFF3F, 0xFF3F)]⟩

/-- The code points with the property `Join_Control`. -/
def joinControl : Ranges := ⟨#[
  (0x200C, 0x200D)]⟩

/-- A character that field names and keywords are made of. -/
def isWord (c : Char) : Bool :=
  (alphabetic.contains c.toNat || mark.contains c.toNat || decimalNumber.contains c.toNat ||
    connector.contains c.toNat || joinControl.contains c.toNat) && !isRecent c

/-- A digit is a word character. -/
theorem isWord_of_isDigit {c : Char} (h : isDigit c = true) : isWord c = true := by
  simp [isDigit] at h
  simp [isWord, h]

end Rulebook.Text
