import Rulebook.Text.Unprintable

/-!
# Quoting a text in a message

A message shows a text between double quotes so that its ends and its invisible characters can be
told: quotes and backslashes are escaped, controls have short names, and every other character
that has no shape of its own is written by its number.
-/

namespace Rulebook.Text

/-- The escape of one character of a quoted text, or the character itself. -/
def quotedChar (c : Char) : List Char :=
  match c with
  | '\x00' => ['\\', '0']
  | '\t' => ['\\', 't']
  | '\r' => ['\\', 'r']
  | '\n' => ['\\', 'n']
  | '\\' => ['\\', '\\']
  | '"' => ['\\', '"']
  | c =>
    if graphemeExtend.contains c.toNat || unprintable.contains c.toNat then
      '\\' :: 'u' :: '\x7b' :: (Nat.toDigits 16 c.toNat ++ ['\x7d'])
    else [c]

/-- A text between double quotes, with every character of it told apart. -/
def quoted (s : String) : String :=
  String.ofList ('"' :: (s.toList.flatMap quotedChar ++ ['"']))

end Rulebook.Text
