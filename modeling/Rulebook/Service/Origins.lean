import Rulebook.Service.Message

/-!
# Which origins may read answers

A service answers pages of any origin, or of those on a list. An origin is compared as it is
written, and an item of the list that no header can hold is left out. The asterisk is no origin: a
list with it is refused.
-/

namespace Rulebook

/-- The origins whose pages may read answers. -/
inductive Origins where
  | any
  | listed (origins : List String)
  deriving DecidableEq, Repr

namespace Origins

/-- The policy for a list of origins; an empty one allows any. -/
def ofList? (origins : List String) : Option Origins :=
  if origins.isEmpty then some .any
  else
    let valid := origins.filter fun o => o.toList.all isHeaderChar
    if valid.contains "*" then none else some (.listed valid)

/-- The origin that an answer names as allowed. -/
def allowed? (policy : Origins) (request : Request) : Option String :=
  match policy with
  | .any => some "*"
  | .listed origins => (request.headers.get? "origin").filter origins.contains

/-- The headers that tell a browser whether a page may read the answer. -/
def headers (policy : Origins) (request : Request) : Headers :=
  ((policy.allowed? request).map fun o => ("access-control-allow-origin", o)).toList ++
    [("vary", "origin, access-control-request-method, access-control-request-headers")]

/-- The answer to a browser that asks beforehand: any method and any header. -/
def preflight : Response :=
  (Response.bare 200).withHeaders
    [("access-control-allow-methods", "*"), ("access-control-allow-headers", "*")]

end Origins

end Rulebook
