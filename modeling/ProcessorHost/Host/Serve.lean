import ProcessorHost.Host.Executor
import ProcessorHost.Net.Machine

/-!
# Serving

A server that serves starts its services, is ready until it is told to stop, and then stops
the services in reverse order. A service that does not start ends it before it is ready.
-/

namespace ProcessorHost

namespace Executor

variable {E L : Type}

/-- Performs an operation of a service. A collector that was running has stopped when its
stop is over. -/
def perform (clients : Clients E L) (server : Server) (fuel : Nat) (e : Executor E L)
    (op : ServiceOperation) : Executor E L × Except Cause Unit :=
  let (host, result) := op.perform clients e.host
  let after := { e with host }
  match op with
  | .stopTiming =>
    (if e.host.timing.running then after.awaitTiming clients server fuel else after, result)
  | _ => (after, result)

/-- Starts the services of the server. -/
def initAll (clients : Clients E L) (server : Server) (fuel : Nat) (address : Net.Endpoint)
    (e : Executor E L) : Executor E L × Except Cause Unit :=
  server.registry.initAll (fun e service =>
    ServiceOperation.untilFailure (perform clients server fuel) e (service.starting address)) e

/-- Stops the services of the server. -/
def shutdownAll (clients : Clients E L) (server : Server) (fuel : Nat) (terminate : Bool)
    (e : Executor E L) : Executor E L × Except Cause Unit :=
  server.registry.shutdownAll (fun e service =>
      ServiceOperation.throughout (perform clients server fuel) e none (service.stopping terminate))
    (fun e record => { e with host := e.host.note record }) e

def setServing (e : Executor E L) (change : Serving → Serving) : Executor E L :=
  { e with host := { e.host with serving := change e.host.serving } }

def note (e : Executor E L) (record : LogRecord) : Executor E L :=
  { e with host := e.host.note record }

/-- What is reported when the server listens. -/
def bound (address : Net.Endpoint) : LogRecord :=
  ⟨.info, "TCP listener bound", [("address", .text address.text)]⟩

/-- The services did not all start: what did is stopped, and so is what did not. -/
def giveUp (clients : Clients E L) (server : Server) (fuel : Nat) (failure : Cause)
    (e : Executor E L) : Executor E L :=
  let e := e.note ⟨.warn, "service init failed; shutting down", [("error", .text failure.text)]⟩
  let (e, _) := e.shutdownAll clients server fuel true
  e.setServing .setStopped

/-- The server is told to stop. -/
def signal (e : Executor E L) : Executor E L :=
  (e.setServing .triggerShutdown).note
    ⟨.info, "shutdown signalled, draining in-flight requests", []⟩

/-- The server has no connections left. -/
def wind (clients : Clients E L) (server : Server) (fuel : Nat) (e : Executor E L) :
    Executor E L × Except Cause Unit :=
  let e := e.setServing .triggerShutdown
  let (e, result) := e.shutdownAll clients server fuel false
  ((e.setServing .setStopped).note ⟨.info, "server stopped", []⟩, result)

/-- Starts to serve at an address where the server listens, unless a service does not
start. -/
def beginServing (clients : Clients E L) (server : Server) (fuel : Nat)
    (address : Net.Endpoint) (e : Executor E L) : Executor E L × Except Cause Unit :=
  match e.initAll clients server fuel address with
  | (e, .error failure) => (e.giveUp clients server fuel failure, .error failure)
  | (e, .ok ()) =>
    ((e.setServing .setReady).note ⟨.info, "serving", [("address", .text address.text)]⟩, .ok ())

/-- Stops serving, because the server is told to. -/
def endServing (clients : Clients E L) (server : Server) (fuel : Nat) (e : Executor E L) :
    Executor E L × Except Cause Unit :=
  e.signal.wind clients server fuel

/-- Serves from the start to the end. `attend` is what happens until the server is told to
stop; it does not happen if the services did not start. -/
def serve {α : Type} (clients : Clients E L) (server : Server) (fuel : Nat)
    (address : Net.Endpoint) (attend : Executor E L → Executor E L × α) (e : Executor E L) :
    Executor E L × Option α × Except Cause Unit :=
  match e.beginServing clients server fuel address with
  | (e, .error failure) => (e, none, .error failure)
  | (e, .ok ()) =>
    let (e, a) := attend e
    let (e, result) := e.endServing clients server fuel
    (e, some a, result)

/-- Serves at the address of the server, if the machine listens there. -/
def listenAndServe {α : Type} (machine : Net.Machine) (clients : Clients E L) (server : Server)
    (fuel : Nat) (attend : Executor E L → Executor E L × α) (e : Executor E L) :
    Executor E L × Option α × Except Cause Unit :=
  match machine.listen server.address with
  | .error refusal => (e, none, .error (.of refusal.message))
  | .ok (address, _) => (e.note (bound address)).serve clients server fuel address attend

end Executor

end ProcessorHost
