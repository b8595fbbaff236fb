/-!
# Media types

A media type is a type, a slash and a subtype, with parameters behind semicolons. A subtype may
end in a suffix behind a plus.
-/

namespace Rulebook.MediaType

/-- A character that names and unquoted values are made of. -/
def isToken (c : Char) : Bool := c.isAlphanum || "!#$%&'*+-.^_`|~".toList.contains c

/-- A character that may stand between quotes. -/
def isQuotable (c : Char) : Bool := ' ' ≤ c && c ≠ '\x7f'

/-- Where the reading of parameters is. -/
inductive Stage where
  /-- In front of a name, or of nothing. -/
  | gap
  /-- In a name. -/
  | name
  /-- Behind the equals sign. -/
  | valueStart
  /-- In a value without quotes. -/
  | value
  /-- Behind the opening quote; the next character is taken as it is. -/
  | quoteStart
  /-- Further on between quotes. -/
  | quote
  /-- Behind the closing quote. -/
  | quoteEnd
  deriving DecidableEq

namespace Stage

/-- Goes on by one character. -/
def step : Stage → Char → Option Stage
  | .gap, c => if c = ' ' then some .gap else if isToken c then some .name else none
  | .name, c => if c = '=' then some .valueStart else if isToken c then some .name else none
  | .valueStart, c =>
    if c = '"' then some .quoteStart else if isToken c then some .value else none
  | .value, c => if c = ';' then some .gap else if isToken c then some .value else none
  | .quoteStart, c => if isQuotable c then some .quote else none
  | .quote, c => if c = '"' then some .quoteEnd else if isQuotable c then some .quote else none
  | .quoteEnd, c => if c = ';' then some .gap else if c = ' ' then some .quoteEnd else none

/-- Whether parameters may end here. -/
def isFinal : Stage → Bool
  | .gap | .valueStart | .value | .quoteEnd => true
  | .name | .quoteStart | .quote => false

end Stage

/-- Whether what follows a subtype is nothing or a row of parameters. -/
def endsWell : List Char → Bool
  | [] => true
  | c :: cs => c = ';' && (cs.foldlM Stage.step .gap).any Stage.isFinal

/-- The part of a subtype in front of its last plus and the suffix behind it. -/
def splitSuffix (subtype : List Char) : List Char × Option (List Char) :=
  let suffix := subtype.reverse.takeWhile (· ≠ '+')
  -- A plus at the very start of the subtype belongs to its name.
  match subtype.reverse.dropWhile (· ≠ '+') with
  | _ :: c :: before => ((c :: before).reverse, some suffix.reverse)
  | _ => (subtype, none)

/-- Whether a text is a media type of JSON: `application/json`, or an application subtype with the
suffix `json`, in any case and with any parameters. -/
def isJson (text : String) : Bool :=
  let cs := text.toList.map Char.toLower
  let type := cs.takeWhile isToken
  match cs.dropWhile isToken with
  | '/' :: rest =>
    let subtype := rest.takeWhile isToken
    let after := rest.dropWhile isToken
    let (base, suffix) := splitSuffix subtype
    type = "application".toList && (base = "json".toList || suffix = some "json".toList) &&
      endsWell after
  | _ => false

end Rulebook.MediaType
