import ProcessorHost.Call.Call
import ProcessorHost.Net.Address
import ProcessorHost.Registry
import ProcessorHost.Service.Operation

/-!
# The processor service

The service puts a runner on the network: it keeps count of the calls that were answered,
and makes the processor known, and its health with it, while the server runs. The health of
the whole server is a service of its own.
-/

namespace ProcessorHost

structure ProcessorService where
  runner : Runner
  /-- Under this identifier the running instance is registered. -/
  uniqueServiceId : String
  /-- Whether the instance is registered at all. -/
  register : Bool

namespace ProcessorService

variable {E L : Type}

/-- The name under which this service is known. -/
def serviceName : String := "processor"

def identity (s : ProcessorService) : ProcessorIdentity := s.runner.identity

def info (s : ProcessorService) : ProcessorInfo := ⟨s.identity, s.uniqueServiceId⟩

def text (s : ProcessorService) : String :=
  Text.record "ProcessorService"
    [("identity", s.identity.text), ("unique_service_id", Text.quoted s.uniqueServiceId),
      ("register", toString s.register)] .partly

/-- The counter of answered calls by their outcome. -/
def requestCounter (s : ProcessorService) (outcome : String) : CounterKey :=
  ⟨"docproc_process_requests_total", [("processor", s.identity.id), ("outcome", outcome)], false⟩

/-- The counter of observed durations. -/
def durationCounter (s : ProcessorService) : CounterKey :=
  ⟨"docproc_process_duration_seconds", [("processor", s.identity.id)], true⟩

/-- What is reported of a call that was answered with an error. -/
def failure (e : ProcessingError) : LogRecord :=
  ⟨.warn, "process call failed", [("error", .text e.message)]⟩

/-- Counts a call that has been answered. -/
def observe (s : ProcessorService) (host : Host E L) :
    Except ProcessingError ProcessResponse → Host E L
  | .ok _ => (host.count (s.requestCounter "ok")).count s.durationCounter
  | .error e => ((host.count (s.requestCounter "error")).count s.durationCounter).note (failure e)

/-- Counts a call that has ended, unless it panicked. -/
def conclude (s : ProcessorService) (host : Host E L) : CallOutcome → Host E L
  | .answered result => s.observe host result
  | .panicked _ => host

def registration (s : ProcessorService) (address : Net.Endpoint) : Registration :=
  ⟨s.identity.id, s.uniqueServiceId, address.text, [Lifecycle.processorTag]⟩

/-- The instance is registered, if it is to be, before it is serving. -/
def starting (s : ProcessorService) (address : Net.Endpoint) : List ServiceOperation :=
  (if s.register then [.register (s.registration address)] else []) ++
    [.setHealth s.identity.id .serving,
      .note ⟨.info, "processor service started",
        [("processor", .text s.identity.id), ("address", .text address.text)]⟩]

/-- The processor stops serving before anything else. The timing collector goes on when
the whole process is about to end. -/
def stopping (s : ProcessorService) (terminate : Bool) : List ServiceOperation :=
  [.setHealth s.identity.id .notServing] ++
    (if s.register then [.deregister s.uniqueServiceId] else []) ++
    (if terminate then [] else [.stopTiming]) ++
    [.note ⟨.info, "processor service stopped", [("processor", .text s.identity.id)]⟩]

end ProcessorService

/-- A service of a server. -/
inductive ServerService
  | processor (service : ProcessorService)
  | health

namespace ServerService

def starting (address : Net.Endpoint) : ServerService → List ServiceOperation
  | processor service => service.starting address
  | health => [.setHealth Lifecycle.serverName .serving]

def stopping (terminate : Bool) : ServerService → List ServiceOperation
  | processor service => service.stopping terminate
  | health => [.setHealth Lifecycle.serverName .notServing]

/-- The services of one server, each of a kind of its own. -/
def hosted : ServerService → Hosted ServerService
  | processor service => ⟨ProcessorService.serviceName, 0, processor service⟩
  | health => ⟨HealthService.serviceName, 1, health⟩

/-- The services of a server: health comes last, so that it is up last and down first. -/
def registry (service : ProcessorService) (withHealth : Bool) : Registry ServerService :=
  let registry := Registry.empty.register (processor service).hosted
  if withHealth then registry.register health.hosted else registry

theorem inOrder_registry (service : ProcessorService) (withHealth : Bool) :
    (registry service withHealth).inOrder =
      (processor service).hosted :: if withHealth then [health.hosted] else [] := by
  cases withHealth with
  | true => rfl
  | false => rfl

end ServerService

end ProcessorHost
