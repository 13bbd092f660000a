import ProcessorHost.Http.Body
import ProcessorHost.Http.Path
import ProcessorHost.Http.Resource
import ProcessorHost.Service.ProcessorService
import ProcessorHost.Wire

/-!
# Servers

A server answers requests about one processor service. Most are answered at once, from the
state of the host. Only two may take time: a process call, which is admitted if its body and
its identifier are right and the server is ready, and a request for the timing summary.
-/

namespace ProcessorHost

structure Server where
  address : Net.Endpoint
  config : NetworkConfig
  service : ProcessorService
  registry : Registry ServerService

/-- The response to a request that failed. -/
def ApiError.response (e : ApiError) : Http.Response :=
  .json e.status (.object [("error", .text e.message)])

namespace Server

variable {E L : Type}

/-- A server of a service, with or without the health of the server as a service. -/
def build (address : Net.Endpoint) (config : NetworkConfig) (service : ProcessorService)
    (withHealth : Bool) : Server :=
  ⟨address, config, service, ServerService.registry service withHealth⟩

def text (server : Server) (state : ServingState) : String :=
  Text.record "NetworkServer"
    [("address", server.address.text), ("state", state.title),
      ("services", toString server.registry.size)] .partly

/-- The text of a server together with the service that it was built for. -/
def completeText (server : Server) (state : ServingState) : String :=
  Text.record "ProcessorServer"
    [("address", server.address.text), ("server", server.text state),
      ("service", server.service.text)] .complete

/-- The identifier must be that of the hosted processor. -/
def check (server : Server) (id : String) : Except ApiError Unit :=
  if server.service.identity.id = id then .ok () else .error (.unknownProcessor id)

/-- Reads the text of a segment. -/
def readSegment (p : Http.Parameter) (segment : String) : Except Http.Response String :=
  match Http.segmentText? segment with
  | some s => .ok s
  | none => .error (Http.badSegment p)

/-- Lets a process request in. Its segment comes first, then its body, then the identifier,
and the state of the server last. -/
def letIn (server : Server) (host : Host E L) (segment : String) (r : Http.Request) :
    Except Http.Response ProcessRequest := do
  let id ← readSegment .id segment
  let request ← (Http.acceptBody (readDocument ProcessRequest.decoder) r).mapError (·.response)
  (server.check id).mapError (·.response)
  if host.serving.state ≠ .ready then throw ApiError.unavailable.response
  return request

/-- A state of health as the status of a response. -/
def statusOf (serving : Bool) : Nat := if serving then 200 else 503

/-- Everything there is to know about the health of the server. -/
def health (clients : Clients E L) (server : Server) (host : Host E L) : Http.Response :=
  let id := server.service.identity.id
  .json 200 (.object [
    ("in_flight", .natural host.serving.inFlight.toNat),
    ("processor", .object [("id", .text id), ("status", .text (host.health clients id).name)]),
    ("server", .text (host.health clients Lifecycle.serverName).name),
    ("state", .text host.serving.state.name),
    ("uptime_secs", .natural (host.now / 1000000000))])

/-- A server is ready if it is in that state and its processor is serving. -/
def ready (clients : Clients E L) (server : Server) (host : Host E L) : Http.Response :=
  let processor := host.health clients server.service.identity.id
  .bare (statusOf (host.serving.state = .ready && processor = .serving))

/-- The health of one service by name. -/
def serviceHealth (clients : Clients E L) (host : Host E L) (service : String) :
    Http.Response :=
  let status := host.health clients service
  .json (statusOf (status = .serving))
    (.object [("service", .text service), ("status", .text status.name)])

/-- What becomes of a request when it arrives. -/
inductive Reception
  | respond (response : Http.Response)
  | process (request : ProcessRequest)
  | summarise

/-- Either side of what was checked on the way is a response. -/
def Reception.ofExcept : Except Http.Response Reception → Reception
  | .ok reception => reception
  | .error response => .respond response

/-- What becomes of a request to a resource that allows its method. -/
def receiveAt (clients : Clients E L) (server : Server) (host : Host E L) (r : Http.Request) :
    Http.Resource → Reception
  | .process segment => .ofExcept ((server.letIn host segment r).map .process)
  | .info segment => .ofExcept do
    let id ← readSegment .id segment
    (server.check id).mapError (·.response)
    return .respond (.json 200 server.service.info.value)
  | .stats segment => .ofExcept do
    let id ← readSegment .id segment
    (server.check id).mapError (·.response)
    return .summarise
  | .health => .respond (server.health clients host)
  | .live => .respond (.bare 200)
  | .ready => .respond (server.ready clients host)
  | .serviceHealth segment => .ofExcept do
    let service ← readSegment .service segment
    return .respond (serviceHealth clients host service)

/-- What becomes of a request. The path decides first, then the method. -/
def receive (clients : Clients E L) (server : Server) (host : Host E L) (r : Http.Request) :
    Reception :=
  match Http.Resource.ofPath? r.path with
  | none => .respond (.bare 404)
  | some resource =>
    if resource.methods.contains r.method then server.receiveAt clients host r resource
    else .respond (.notAllowed (String.intercalate "," resource.methods))

end Server

end ProcessorHost
