import Rulebook.Json.Text

/-!
# Requests and responses

A request is a method, a target, headers and a body. A response is a status, headers and a body
that is nothing, a plain text or a JSON value.
-/

namespace Rulebook

/-- The headers of a message, by name, in their order. -/
abbrev Headers := List (String × String)

/-- A header name in lower case. -/
def headerName (name : String) : String := String.ofList (name.toList.map Char.toLower)

/-- The first header with this name, in any case. -/
def Headers.get? (name : String) (hs : Headers) : Option String :=
  (hs.find? fun h => headerName h.1 = name).map (·.2)

/-- A character that a header value shows: printable ASCII or a tab. -/
def isVisible (c : Char) : Bool := (' ' ≤ c && c ≤ '~') || c = '\t'

/-- A character that a header value can hold: any but the control characters of ASCII, except for
the tab. -/
def isHeaderChar (c : Char) : Bool := (' ' ≤ c && c ≠ '\x7f') || c = '\t'

/-- The value of a header whose characters are all visible. -/
def Headers.visible? (name : String) (hs : Headers) : Option String :=
  (hs.get? name).filter fun value => value.toList.all isVisible

/-- A request to the service. Its body is a text, so one that is not UTF-8 is left out. -/
structure Request where
  method : String
  target : String
  headers : Headers
  body : String

/-- The body of a response. -/
inductive Body where
  | empty
  | plain (text : String)
  | json (value : Json)

/-- The text of a body. -/
def Body.text : Body → String
  | .empty => ""
  | .plain text => text
  | .json value => value.text

/-- A response of the service. -/
structure Response where
  status : Nat
  headers : Headers
  body : Body

namespace Response

/-- A response without a body. -/
def bare (status : Nat) : Response := ⟨status, [], .empty⟩

/-- A response with a plain text. -/
def plain (status : Nat) (text : String) : Response :=
  ⟨status, [("content-type", "text/plain; charset=utf-8")], .plain text⟩

/-- A response with a JSON value. -/
def json (status : Nat) (value : Json) : Response :=
  ⟨status, [("content-type", "application/json")], .json value⟩

/-- A response with more headers. -/
def withHeaders (hs : Headers) (r : Response) : Response := { r with headers := r.headers ++ hs }

/-- A response without its body. -/
def withoutBody (r : Response) : Response := { r with body := .empty }

end Response

end Rulebook
