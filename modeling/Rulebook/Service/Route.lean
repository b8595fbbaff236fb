import Rulebook.Service.Message
import Rulebook.Service.Target
import Rulebook.Text.Split

/-!
# Routes

A route is a path template with the methods it answers and what each of them leads to. A request
leads to the entry of its method in the route of its path, with the values of the template's
parameters as they are written in the path. `HEAD` goes where `GET` goes.
-/

namespace Rulebook

/-- A part of a path template. -/
inductive TemplatePart where
  /-- A part that is written so. -/
  | literal (text : String)
  /-- Any part that is not empty. -/
  | parameter (name : String)
  deriving DecidableEq, Repr

/-- A path template: its parts between slashes, of which the first stands behind the first slash. -/
abbrev Template := List TemplatePart

namespace Template

/-- The text of a template. -/
def text (t : Template) : String :=
  String.join <| t.map fun
    | .literal text => "/" ++ text
    | .parameter name => "/\x7b" ++ name ++ "\x7d"

/-- The values of the parameters, if the parts of a path are those of the template. -/
def matchParts? : Template → List (List Char) → Option (List String)
  | [], [] => some []
  | .literal text :: t, p :: ps => if text.toList = p then matchParts? t ps else none
  | .parameter _ :: t, p :: ps =>
    if p.isEmpty then none else (matchParts? t ps).map (String.ofList p :: ·)
  | _, _ => none

/-- The values of the parameters, if a path is as the template says. -/
def match? (t : Template) (path : String) : Option (List String) :=
  match path.toList with
  | '/' :: cs => t.matchParts? (Text.split '/' cs)
  | _ => none

end Template

/-- A template with the methods it answers and what they lead to. -/
structure Route (α : Type) where
  template : Template
  entries : List (String × α)

/-- Where a request leads. -/
inductive Destination (α : Type) where
  /-- To an entry, with the values of the parameters. -/
  | entry (value : α) (parameters : List String)
  /-- To a route that does not answer the method. -/
  | wrongMethod (route : Route α)
  /-- To no route. -/
  | nowhere

namespace Route

variable {α : Type}

/-- The methods that a route answers, as a header lists them. -/
def allow (r : Route α) : String :=
  ",".intercalate (r.entries.flatMap fun (method, _) =>
    if method = "GET" then ["GET", "HEAD"] else [method])

/-- The entry for a method. -/
def entry? (method : String) (r : Route α) : Option α :=
  r.entries.lookup (if method = "HEAD" then "GET" else method)

/-- The route of a path, with the values of its parameters. -/
def find? (routes : List (Route α)) (path : String) : Option (Route α × List String) :=
  routes.findSome? fun r => (r.template.match? path).map (r, ·)

/-- Where a request leads. -/
def destination (routes : List (Route α)) (method path : String) : Destination α :=
  match find? routes path with
  | none => .nowhere
  | some (r, parameters) =>
    match r.entry? method with
    | some value => .entry value parameters
    | none => .wrongMethod r

/-- What a path is called in the metrics: its template, or the path itself if no route has it. -/
def label (routes : List (Route α)) (path : String) : String :=
  match find? routes path with
  | some (r, _) => r.template.text
  | none => path

/-- The answer to a request: that of the entry it leads to, without its body for `HEAD`, or an
empty one. An entry gives the answer together with something else. -/
def answer {β : Type} (routes : List (Route α)) (request : Request) (unchanged : β)
    (run : α → List String → Response × β) : Response × β :=
  match destination routes request.method (Target.path request.target) with
  | .entry value parameters =>
    let (response, result) := run value parameters
    (if request.method = "HEAD" then response.withoutBody else response, result)
  | .wrongMethod r => ((Response.bare 405).withHeaders [("allow", r.allow)], unchanged)
  | .nowhere => (.bare 404, unchanged)

end Route

end Rulebook
