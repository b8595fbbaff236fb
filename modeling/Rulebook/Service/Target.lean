import Rulebook.Json.Token

/-!
# Paths and percent escapes

The path of a request target is what stands in front of the query. Routes are matched on the path
as it is written; a part of it that is taken as a value is decoded first, and then has to be
UTF-8.
-/

namespace Rulebook.Target

/-- What stands in front of a query or a fragment. -/
def beforeQuery (cs : List Char) : List Char := cs.takeWhile fun c => c ≠ '?' && c ≠ '#'

/-- The path of a target. A path may be all of a target, as the asterisk is; behind a scheme and an
authority one that is not written is a slash; and an authority alone has an empty path. -/
def path (target : String) : String :=
  let cs := target.toList
  if cs.head? = some '/' || cs = ['*'] then String.ofList (beforeQuery cs)
  else
    match cs.dropWhile (· ≠ ':') with
    | ':' :: '/' :: '/' :: rest =>
      let path := beforeQuery (rest.dropWhile fun c => c ≠ '/' && c ≠ '?' && c ≠ '#')
      if path.isEmpty then "/" else String.ofList path
    | _ => ""

/-- The byte that two hexadecimal digits denote. -/
def byte? (a b : UInt8) : Option UInt8 := do
  let high ← Json.Token.hexValue? (Char.ofNat a.toNat)
  let low ← Json.Token.hexValue? (Char.ofNat b.toNat)
  pure (high * 16 + low).toUInt8

/-- The byte of the percent sign. -/
def percent : UInt8 := 0x25

/-- The bytes in which every percent sign with two hexadecimal digits is the byte that they
denote; any other percent sign is kept. -/
def decode : List UInt8 → List UInt8
  | p :: a :: b :: rest =>
    if p = percent then
      match byte? a b with
      | some x => x :: decode rest
      | none => p :: decode (a :: b :: rest)
    else p :: decode (a :: b :: rest)
  | bytes => bytes

/-- The text that a part of a path stands for, if its bytes are UTF-8. -/
def decoded? (part : String) : Option String :=
  String.fromUTF8? ⟨(decode part.toUTF8.toList).toArray⟩

end Rulebook.Target
