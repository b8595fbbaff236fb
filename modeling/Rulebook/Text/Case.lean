import Rulebook.Text.CaseTables

/-!
# Letter case

Full case mapping of a text: a character may become several, and a capital sigma that ends a word
becomes the final form `ς`.
-/

namespace Rulebook.Text

/-- The character `offset` code points after the one numbered `n`. -/
def CaseRun.shift (offset : Int) (n : Nat) : Char := Char.ofNat (n + offset).toNat

/-- What `c` becomes by the mappings of `runs` and `special`; itself, where neither has it. -/
def mapCase (runs : Array CaseRun) (special : List (Nat × List Nat)) (c : Char) : List Char :=
  match special.lookup c.toNat with
  | some codes => codes.map Char.ofNat
  | none =>
    match runs.find? fun r => r.first ≤ c.toNat && c.toNat ≤ r.last with
    | some r => if (c.toNat - r.first) % r.step = 0 then [CaseRun.shift r.offset c.toNat] else [c]
    | none => [c]

/-- Whether a text goes on, after characters that case ignores, with a cased character. -/
def startsCased (cs : List Char) : Bool :=
  match cs.dropWhile (fun c => caseIgnorable.contains c.toNat) with
  | c :: _ => cased.contains c.toNat
  | [] => false

/-- The lower-case form of a text that follows a cased character exactly if `afterCased`. -/
def lowerFrom (afterCased : Bool) : List Char → List Char
  | [] => []
  | c :: rest =>
    let afterCased' := if caseIgnorable.contains c.toNat then afterCased else cased.contains c.toNat
    if c = 'Σ' then
      (if afterCased && !startsCased rest then 'ς' else 'σ') :: lowerFrom afterCased' rest
    else
      mapCase lowerRuns lowerSpecial c ++ lowerFrom afterCased' rest

/-- The lower-case form of `s`. -/
def lower (s : String) : String := String.ofList (lowerFrom false s.toList)

/-- The upper-case form of `s`. -/
def upper (s : String) : String :=
  String.ofList (s.toList.flatMap (mapCase upperRuns upperSpecial))

end Rulebook.Text
