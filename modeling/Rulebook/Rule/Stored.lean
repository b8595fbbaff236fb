import Rulebook.Json.Shape
import Rulebook.Time.Instant

/-!
# Stored rules

A stored rule is the text of a rule as it was saved, with an id and the time of saving.
-/

namespace Rulebook

open Json (Fault)

/-- A rule text that was saved. -/
structure StoredRule where
  id : String
  source : String
  createdAt : Instant
  deriving DecidableEq

namespace StoredRule

/-- The JSON value of a stored rule. -/
def toJson (r : StoredRule) : Json :=
  .object [("id", .string r.id), ("ruleString", .string r.source),
    ("createdAt", .string r.createdAt.text)]

/-- The fields that have been read. -/
structure Parts where
  id : Option String
  source : Option String
  createdAt : Option Instant

/-- The moment that a string denotes. -/
def momentOfDraft (d : Json.Draft) : Except Fault Instant := do
  let s ← d.asString
  match Instant.read? s.toList with
  | some t => pure t
  | none => throw (.misfit [] (.wrongValue (Json.describedString s) "a moment of time"))

/-- The shape of a stored rule. -/
def shape : Json.Shape Parts StoredRule where
  title := "struct StoredRule"
  fields := [
    ⟨"id", (·.id.isSome), fun p d => do pure { p with id := some (← d.asString) }⟩,
    ⟨"ruleString", (·.source.isSome), fun p d => do pure { p with source := some (← d.asString) }⟩,
    ⟨"createdAt", (·.createdAt.isSome),
      fun p d => do pure { p with createdAt := some (← momentOfDraft d) }⟩]
  start := ⟨none, none, none⟩
  finish
    | ⟨some id, some source, some createdAt⟩ => .ok ⟨id, source, createdAt⟩
    | ⟨none, _, _⟩ => .error "id"
    | ⟨_, none, _⟩ => .error "ruleString"
    | ⟨_, _, none⟩ => .error "createdAt"

/-- The stored rule that a JSON text gives. -/
def read (cs : List Char) : Except Fault StoredRule := shape.ofText cs

end StoredRule

end Rulebook
