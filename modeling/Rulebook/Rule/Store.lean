import Rulebook.Rule.Compile
import Rulebook.Rule.Stored

/-!
# The store of rules

A store keeps the rules that were saved, each under its id, together with a number that tells the
order of saving. The entries themselves have no order of their own: it is the numbers that a
listing goes by. Saving is made of single steps (`reserve` takes a number, `insert` places the
entry), and so are deleting and clearing (`remove` takes one entry away), so that several callers
may share a store.
-/

namespace Rulebook

/-- A stored rule with its number in the order of saving. -/
structure Store.Entry where
  number : UInt64
  rule : StoredRule
  deriving DecidableEq

/-- The saved rules and the number that the next one gets. -/
structure Store where
  entries : List Store.Entry
  next : UInt64
  deriving DecidableEq

namespace Store

/-- A store without rules. -/
def empty : Store := ⟨[], 0⟩

/-! ## Single steps -/

/-- Takes the next number. -/
def reserve (s : Store) : UInt64 × Store := (s.next, { s with next := s.next + 1 })

/-- Removes the entry with this id. -/
def remove (id : String) (s : Store) : Store :=
  { s with entries := s.entries.filter (·.rule.id ≠ id) }

/-- Places an entry, which replaces one with the same id. -/
def insert (entry : Entry) (s : Store) : Store :=
  { s with entries := entry :: (s.remove entry.rule.id).entries }

/-! ## Looking up -/

/-- The number of rules. -/
def size (s : Store) : Nat := s.entries.length

/-- Whether there are no rules. -/
def isEmpty (s : Store) : Bool := s.entries.isEmpty

/-- The rule with this id. -/
def get? (id : String) (s : Store) : Option StoredRule :=
  (s.entries.find? (·.rule.id = id)).map (·.rule)

/-- Whether there is a rule with this id. -/
def contains (id : String) (s : Store) : Bool := (s.get? id).isSome

/-- The rules in the order of saving. -/
def toList (s : Store) : List StoredRule :=
  (s.entries.mergeSort fun a b => a.number ≤ b.number).map (·.rule)

/-- The rule with this id, which has to be there. -/
def get (id : String) (s : Store) : Except RuleError StoredRule :=
  match s.get? id with
  | some r => .ok r
  | none => .error (.ruleNotFound id)

/-! ## Changing -/

/-- Checks that a text may be saved: it is not blank, and it is a rule. -/
def check (source : String) : Except RuleError Unit :=
  if (Text.trim source.toList).isEmpty then .error .emptyRule
  else match compile source with
    | .ok _ => .ok ()
    | .error e => .error (.notARule e)

/-- Saves a text that may be saved under a fresh id. -/
def save (id : String) (now : Instant) (source : String) (s : Store) :
    Except RuleError (StoredRule × Store) :=
  (check source).map fun _ =>
    let rule : StoredRule := ⟨id, source, now⟩
    let (number, s) := s.reserve
    (rule, s.insert ⟨number, rule⟩)

/-- Deletes the rule with this id, which has to be there. -/
def delete (id : String) (s : Store) : Except RuleError Store :=
  (s.get id).map fun _ => s.remove id

/-- Deletes all rules. Numbers that were given out are not given out again. -/
def clear (s : Store) : Store := { s with entries := [] }

/-! ## Compiling what is stored -/

/-- The tree of the rule with this id. -/
def compile (id : String) (s : Store) : Except RuleError Tree := do
  let r ← s.get id
  (Rulebook.compile r.source).mapError .notARule

/-- The trees of the rules with these ids joined by AND; every id is looked up first. -/
def combine (ids : List String) (s : Store) : Except RuleError (Option Tree) := do
  let rules ← ids.mapM s.get
  Rulebook.combine (rules.map (·.source))

end Store

end Rulebook
