import ProcessorHost.Http.Message

/-!
# Resources

What a host serves, by path. The fixed names below `/health` come before the names of
services. Segments that hold an identifier or a name are kept as they were sent.
-/

namespace ProcessorHost.Http

/-- The name by which a segment is called when it cannot be read. -/
inductive Parameter
  | id
  | service
deriving DecidableEq, Repr

namespace Parameter

def name : Parameter → String
  | id => "id"
  | service => "service"

end Parameter

inductive Resource
  | process (id : String)
  | info (id : String)
  | stats (id : String)
  | health
  | live
  | ready
  | serviceHealth (service : String)
deriving DecidableEq, Repr

namespace Resource

/-- The resource at a path. -/
def ofPath? (path : String) : Option Resource :=
  match (path.toList.splitOn '/').map String.ofList with
  | ["", "v1", "processors", id, "process"] => some (process id)
  | ["", "v1", "processors", id, "info"] => some (info id)
  | ["", "v1", "processors", id, "stats"] => some (stats id)
  | ["", "health"] => some health
  | ["", "health", "live"] => some live
  | ["", "health", "ready"] => some ready
  | ["", "health", service] => if service.isEmpty then none else some (serviceHealth service)
  | _ => none

/-- Whether a resource takes what is posted; all others are there to be read. -/
def isPosted : Resource → Bool
  | process _ => true
  | _ => false

/-- The methods that a resource allows. -/
def methods (r : Resource) : List String := if r.isPosted then ["POST"] else ["GET", "HEAD"]

end Resource

/-- The response to a segment that is not a text. -/
def badSegment (p : Parameter) : Response :=
  .plain 400 ("Invalid URL: Invalid UTF-8 in `" ++ p.name ++ "`")

end ProcessorHost.Http
