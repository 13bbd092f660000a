import ProcessorHost.Json.Printer
import ProcessorHost.Span
import ProcessorHost.Text.Quoted

/-!
# Process requests and responses

What is asked of a processor and what it answers.
-/

namespace ProcessorHost

/-- The name a processor declares and the identifier it is served under. -/
structure ProcessorIdentity where
  name : String
  id : String
deriving DecidableEq, Repr, Inhabited

namespace ProcessorIdentity

def text (i : ProcessorIdentity) : String :=
  Text.record "ProcessorIdentity" [("name", Text.quoted i.name), ("id", Text.quoted i.id)]
    .complete

end ProcessorIdentity

/-- A request to process one event. -/
structure ProcessRequest where
  eventId : String
  params : Json.Members
deriving Repr, Inhabited

/-- What the processor returned, and the time spent under each timing key within the call. -/
structure ProcessResponse where
  eventId : String
  result : Json.Members
  /-- In increasing order of the keys' texts. -/
  timing : List (String × Span)
deriving Repr, Inhabited

namespace ProcessResponse

def value (r : ProcessResponse) : Json.Value :=
  .object [
    ("event_id", .text r.eventId),
    ("result", .object r.result),
    ("timing_info_ms", .object (r.timing.map fun (key, d) => (key, .number (.binary d.millis))))]

end ProcessResponse

/-- What is told about a hosted processor. -/
structure ProcessorInfo where
  identity : ProcessorIdentity
  uniqueServiceId : String
deriving DecidableEq, Repr

namespace ProcessorInfo

def value (i : ProcessorInfo) : Json.Value :=
  .object [("name", .text i.identity.name), ("id", .text i.identity.id),
    ("unique_service_id", .text i.uniqueServiceId)]

end ProcessorInfo

end ProcessorHost
