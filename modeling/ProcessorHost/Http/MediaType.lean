/-!
# Media types

A media type is a type and a subtype, whose last part after a plus sign is its suffix, and
may be followed by parameters. A body is read as JSON if its media type is `application/json`
or has the type `application` and the suffix `json`.
-/

namespace ProcessorHost.Http

/-- A character of a token. -/
def isTokenChar (c : Char) : Bool :=
  c.isAlphanum || "!#$%&'*+-.^_`|~".toList.contains c

/-- A character of a header that can be read as text. -/
def isHeaderChar (c : Char) : Bool := c = '\t' || (32 ≤ c.toNat && c.toNat < 127)

/-- A character between double quotes. -/
def isQuotedChar (c : Char) : Bool := 31 < c.toNat && c.toNat ≠ 127

structure MediaType where
  type : String
  subtype : String
  suffix : Option String
deriving DecidableEq, Repr

namespace MediaType

/-- What is being read of the parameters. -/
inductive ParameterState
  /-- Before a name. -/
  | between
  /-- Within a name. -/
  | name
  /-- After the equals sign. -/
  | value (empty : Bool)
  /-- Within quotes. -/
  | quoted (empty : Bool)
  /-- After a closing quote. -/
  | closed
deriving DecidableEq

/-- Whether parameters are well formed, from some state on. -/
def parametersFrom : ParameterState → List Char → Bool
  | .between, [] => true
  | .name, [] => false
  | .value _, [] => true
  | .quoted _, [] => false
  | .closed, [] => true
  | .between, c :: rest =>
    if c = ' ' then parametersFrom .between rest
    else isTokenChar c && parametersFrom .name rest
  | .name, c :: rest =>
    if c = '=' then parametersFrom (.value true) rest
    else isTokenChar c && parametersFrom .name rest
  | .value empty, c :: rest =>
    if c = '"' && empty then parametersFrom (.quoted true) rest
    else if c = ';' && !empty then parametersFrom .between rest
    else isTokenChar c && parametersFrom (.value false) rest
  | .quoted empty, c :: rest =>
    if c = '"' && !empty then parametersFrom .closed rest
    else isQuotedChar c && parametersFrom (.quoted false) rest
  | .closed, c :: rest =>
    if c = ';' then parametersFrom .between rest
    else c = ' ' && parametersFrom .closed rest

/-- The subtype up to its last plus sign, which does not come first, and what follows it. -/
def splitSuffix (subtype : List Char) : String × Option String :=
  let after := subtype.reverse.takeWhile (· ≠ '+')
  let before := (subtype.reverse.drop (after.length + 1)).reverse
  if before.isEmpty then (String.ofList subtype, none)
  else (String.ofList before, some (String.ofList after.reverse))

/-- Reads a media type; letters are made small. -/
def ofText? (s : String) : Option MediaType :=
  let cs := s.toList
  let type := cs.takeWhile isTokenChar
  match cs.drop type.length with
  | '/' :: rest =>
    let subtype := rest.takeWhile isTokenChar
    let wellFormed := match rest.drop subtype.length with
      | [] => true
      | c :: parameters => c = ';' && !subtype.isEmpty && parametersFrom .between parameters
    if !type.isEmpty && wellFormed then
      let (main, suffix) := splitSuffix (subtype.map Char.toLower)
      some ⟨String.ofList (type.map Char.toLower), main, suffix⟩
    else none
  | _ => none

def isJson (m : MediaType) : Bool :=
  m.type = "application" && (m.subtype = "json" || m.suffix = some "json")

end MediaType

/-- Whether the value of a header announces JSON. -/
def announcesJson (header : String) : Bool :=
  header.toList.all isHeaderChar && ((MediaType.ofText? header).map (·.isJson)).getD false

end ProcessorHost.Http
