/-!
# Places counted in bytes

A place in a text is given by the number of UTF-8 bytes in front of it. Cut at the end of a part,
a text falls into the part and what follows it.
-/

namespace Rulebook.Text

/-- The number of bytes of a row of characters. -/
def byteCount : List Char → Nat
  | [] => 0
  | c :: cs => c.utf8Size + byteCount cs

/-- The characters in front of a place. -/
def takeBytes : (place : Nat) → List Char → List Char
  | _, [] => []
  | n, c :: cs => if c.utf8Size ≤ n then c :: takeBytes (n - c.utf8Size) cs else []

/-- The characters behind a place. -/
def dropBytes : (place : Nat) → List Char → List Char
  | _, [] => []
  | n, c :: cs => if c.utf8Size ≤ n then dropBytes (n - c.utf8Size) cs else c :: cs

/-- The bytes of two rows of characters in a row. -/
theorem byteCount_append (cs ds : List Char) :
    byteCount (cs ++ ds) = byteCount cs + byteCount ds := by
  induction cs with
  | nil => simp [byteCount]
  | cons c cs ih => rw [List.cons_append, byteCount, byteCount, ih, Nat.add_assoc]

/-- A text cut at the end of a part gives the part. -/
theorem takeBytes_byteCount (cs rest : List Char) : takeBytes (byteCount cs) (cs ++ rest) = cs := by
  induction cs with
  | nil => cases rest <;> simp [byteCount, takeBytes, Nat.ne_of_gt (Char.utf8Size_pos _)]
  | cons c cs ih => simp [byteCount, takeBytes, ih]

/-- A text cut at the end of a part leaves what follows the part. -/
theorem dropBytes_byteCount (cs rest : List Char) :
    dropBytes (byteCount cs) (cs ++ rest) = rest := by
  induction cs with
  | nil => cases rest <;> simp [byteCount, dropBytes, Nat.ne_of_gt (Char.utf8Size_pos _)]
  | cons c cs ih => simp [byteCount, dropBytes, ih]

end Rulebook.Text
