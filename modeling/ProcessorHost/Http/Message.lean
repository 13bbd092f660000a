import ProcessorHost.Json.Printer

/-!
# Requests and responses
-/

namespace ProcessorHost.Http

structure Request where
  /-- Methods are told apart by case. -/
  method : String
  /-- A path, and a query after a question mark; perhaps all of it behind a scheme and an
  authority. -/
  target : String
  /-- In the order in which they were sent. -/
  headers : List (String × String)
  body : List UInt8
deriving Repr

namespace Request

/-- The value of the first header with a name in small letters. -/
def header? (r : Request) (name : String) : Option String :=
  (r.headers.find? fun header => header.1.toLower = name).map (·.2)

/-- What of a target begins with its path. Behind an authority there may be none, which is
the same as the root; an authority without a scheme has no path at all. -/
def fromPath (target : List Char) : List Char :=
  match target, target.dropWhile (· ≠ ':') with
  | '/' :: _, _ => target
  | ['*'], _ => target
  | _, ':' :: '/' :: '/' :: rest =>
    match rest.dropWhile fun c => c ≠ '/' && c ≠ '?' && c ≠ '#' with
    | '/' :: path => '/' :: path
    | _ => ['/']
  | _, _ => []

/-- The path without query and fragment. -/
def path (r : Request) : String :=
  String.ofList ((fromPath r.target.toList).takeWhile fun c => c ≠ '?' && c ≠ '#')

end Request

structure Response where
  status : Nat
  contentType : Option String
  /-- The methods that a resource allows, if the method was not one of them. -/
  allow : Option String
  /-- The identifier of the request, if it is sent back. -/
  requestId : Option String
  body : String
deriving DecidableEq, Repr

namespace Response

/-- A status and nothing else. -/
def bare (status : Nat) : Response := ⟨status, none, none, none, ""⟩

def json (status : Nat) (value : Json.Value) : Response :=
  ⟨status, some "application/json", none, none, value.written⟩

def plain (status : Nat) (text : String) : Response :=
  ⟨status, some "text/plain; charset=utf-8", none, none, text⟩

/-- A method that a resource does not allow. -/
def notAllowed (allow : String) : Response := { bare 405 with allow := some allow }

/-- The response to a request for the head alone. -/
def headOnly (r : Response) : Response := { r with body := "" }

end Response

end ProcessorHost.Http
