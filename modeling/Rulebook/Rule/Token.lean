import Rulebook.Rule.Error
import Rulebook.Rule.Lexeme

/-!
# The tokens of a rule text

A rule text is lexemes with white space between them. Anything else between two lexemes is an
error, and so is a clause that does not split into a field, a comparator and a value.
-/

namespace Rulebook

open Text

/-- What a token is. -/
inductive Token.Kind where
  | connective (connective : Connective)
  | openParen
  | closeParen
  | condition (condition : Condition)
  deriving DecidableEq

/-- A token and the number of characters in front of it. -/
structure Token where
  kind : Token.Kind
  position : Nat
  deriving DecidableEq

/-- The value that follows a comparator: white space, then at least one character, and no line
feed. -/
def Condition.value? (cs : List Char) : Option (List Char) :=
  let value := cs.dropWhile isBlank
  if value.isEmpty ∨ '\n' ∈ value then none else some value

/-- The condition that a clause states: a word, a comparator and a value, with white space between
them if any. The comparator is the first of the symbols that leaves a value. -/
def Condition.ofClause? (cs : List Char) : Option Condition :=
  let field := cs.takeWhile isWord
  let rest := (cs.dropWhile isWord).dropWhile isBlank
  if field.isEmpty then none
  else
    Comparator.symbols.findSome? fun symbol => do
      let value ← value? (← Lexeme.after? symbol.toList rest)
      pure ⟨String.ofList field, .ofSymbol symbol, .ofText value⟩

/-- The condition that a clause states, white space around it aside. -/
def Condition.ofClause (clause : List Char) (position : Nat) : Except SyntaxError Condition :=
  match ofClause? (trim clause) with
  | some condition => .ok condition
  | none => .error (.malformedComparison position (String.ofList (trim clause)))

namespace Token

/-- The error for the text between two lexemes, unless it is blank. -/
def gapFault? (position : Nat) (gap : List Char) : Option SyntaxError :=
  let fragment := trim gap
  if fragment.isEmpty then none
  else some (.unexpectedInput (position + (gap.takeWhile isBlank).length) (String.ofList fragment))

/-- What a lexeme with this text says. -/
def kindOf (lexeme : Lexeme) (text : List Char) (position : Nat) : Except SyntaxError Kind :=
  match lexeme with
  | .keyword connective => .ok (.connective connective)
  | .openParen => .ok .openParen
  | .closeParen => .ok .closeParen
  | .clause => (Condition.ofClause text position).map .condition

/-- The tokens of a text that stands behind `position` characters, of which `before` is the
last. -/
def scanFrom (before : Option Char) (position : Nat) (cs : List Char) :
    Except SyntaxError (List Token) :=
  match _h : Lexeme.find? before cs with
  | none =>
    match gapFault? position cs with
    | some e => .error e
    | none => .ok []
  | some f =>
    match gapFault? position f.skipped with
    | some e => .error e
    | none =>
      let start := position + f.skipped.length
      match kindOf f.lexeme f.text start with
      | .error e => .error e
      | .ok kind =>
        match scanFrom f.text.getLast? (start + f.text.length) f.rest with
        | .error e => .error e
        | .ok tokens => .ok (⟨kind, start⟩ :: tokens)
termination_by cs.length
decreasing_by exact Lexeme.rest_length_lt_of_find? _h

/-- The tokens of a rule text. -/
def scan (source : String) : Except SyntaxError (List Token) := scanFrom none 0 source.toList

end Token

end Rulebook
