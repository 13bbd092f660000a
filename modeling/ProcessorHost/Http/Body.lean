import ProcessorHost.Http.MediaType
import ProcessorHost.Http.Message
import ProcessorHost.Json.Decoder

/-!
# Bodies

A body is accepted if it is announced as JSON, is not too long, and can be read as what is
asked for; these are checked in this order.
-/

namespace ProcessorHost.Http

/-- Why a body is not accepted. -/
inductive BodyRejection
  | notJson
  | tooLong
  /-- It is not a document. -/
  | malformed (failure : Json.Failure)
  /-- It is a document of something else. -/
  | unfit (failure : Json.Failure)
deriving DecidableEq, Repr

namespace BodyRejection

/-- Bodies are no longer than this many bytes. -/
def limit : Nat := 2097152

def ofFailure (e : Json.Failure) : BodyRejection :=
  match e.fault.faultClass with
  | .content => unfit e
  | _ => malformed e

def response : BodyRejection → Response
  | notJson => .plain 415 "Expected request with `Content-Type: application/json`"
  | tooLong => .plain 413 "Failed to buffer the request body: length limit exceeded"
  | malformed e => .plain 400 ("Failed to parse the request body as JSON: " ++ e.message)
  | unfit e =>
    .plain 422 ("Failed to deserialize the JSON body into the target type: " ++ e.message)

end BodyRejection

/-- Reads a body, given how its content is read. -/
def acceptBody {α : Type} (read : List UInt8 → Except Json.Failure α) (r : Request) :
    Except BodyRejection α :=
  if !((r.header? "content-type").map announcesJson).getD false then .error .notJson
  else if BodyRejection.limit < r.body.length then .error .tooLong
  else
    match read r.body with
    | .ok a => .ok a
    | .error e => .error (.ofFailure e)

end ProcessorHost.Http
