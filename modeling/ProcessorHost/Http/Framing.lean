import ProcessorHost.Http.Message

/-!
# Requests and responses on a connection

The head of a request is a line with its method and its target, and then a line for each
header. The body follows after an empty line and is as long as a header says. Responses are
written in the same form.
-/

namespace ProcessorHost.Http

/-- A request without its body. -/
structure RequestHead where
  method : String
  target : String
  headers : List (String × String)
deriving DecidableEq, Repr

/-- The text without the blanks and line ends around it. -/
def trimmed (s : String) : String := s.trimAscii.toString

/-- The name and the value of a header line. -/
def headerOf? (line : String) : Option (String × String) :=
  match line.splitOn ":" with
  | name :: value@(_ :: _) => some (trimmed name, trimmed (String.intercalate ":" value))
  | _ => none

namespace RequestHead

/-- The head that some lines make up, if the first of them is in order. -/
def ofLines? : List String → Option RequestHead
  | [] => none
  | first :: headers =>
    match (trimmed first).splitOn " " with
    | [method, target, _] => some ⟨method, target, headers.filterMap headerOf?⟩
    | _ => none

/-- The request with its body. -/
def withBody (h : RequestHead) (body : List UInt8) : Request :=
  ⟨h.method, h.target, h.headers, body⟩

/-- The length of the body. -/
def bodyLength (h : RequestHead) : Nat :=
  (((h.withBody []).header? "content-length").bind (·.toNat?)).getD 0

end RequestHead

/-- What is said of a status beside its number. -/
def reason : Nat → String
  | 200 => "OK"
  | 400 => "Bad Request"
  | 404 => "Not Found"
  | 405 => "Method Not Allowed"
  | 408 => "Request Timeout"
  | 413 => "Payload Too Large"
  | 415 => "Unsupported Media Type"
  | 422 => "Unprocessable Entity"
  | 500 => "Internal Server Error"
  | 502 => "Bad Gateway"
  | 503 => "Service Unavailable"
  | _ => ""

namespace Response

/-- The headers of a response. -/
def headers (r : Response) : List (String × String) :=
  (r.contentType.toList.map fun v => ("content-type", v)) ++
    (r.allow.toList.map fun v => ("allow", v)) ++
    (r.requestId.toList.map fun v => ("x-request-id", v)) ++
    [("content-length", toString r.body.utf8ByteSize)]

/-- A response as it is sent. -/
def framed (r : Response) : String :=
  let head := "HTTP/1.1 " ++ toString r.status ++ " " ++ reason r.status
  let lines := head :: r.headers.map fun (name, value) => name ++ ": " ++ value
  String.join (lines.map (· ++ "\r\n")) ++ "\r\n" ++ r.body

end Response

end ProcessorHost.Http
