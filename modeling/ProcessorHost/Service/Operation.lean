import ProcessorHost.Host.State

/-!
# What services do to start and to stop

Starting and stopping are sequences of operations on the host. A service that starts gives
up at the first failure; one that stops goes through with the rest and reports the first.
-/

namespace ProcessorHost

inductive ServiceOperation
  | register (registration : Registration)
  | deregister (id : String)
  | setHealth (service : String) (status : Health)
  /-- Has the timing collector stop; what follows waits until it has. -/
  | stopTiming
  | note (record : LogRecord)
deriving DecidableEq, Repr

namespace ServiceOperation

variable {E L : Type}

/-- Performs an operation. -/
def perform (clients : Clients E L) (host : Host E L) :
    ServiceOperation → Host E L × Except Cause Unit
  | register registration =>
    let (lifecycle, records, result) := clients.lifecycle.register host.lifecycle registration
    ({ host with lifecycle }.noteAll records, result)
  | deregister id =>
    let (lifecycle, records, result) := clients.lifecycle.deregister host.lifecycle id
    ({ host with lifecycle }.noteAll records, result)
  | setHealth service status => (host.setHealth clients service status, .ok ())
  | stopTiming => ({ host with timing := host.timing.shutdown }, .ok ())
  | note record => (host.note record, .ok ())

variable {σ : Type}

/-- Performs operations up to the first that fails. -/
def untilFailure (perform : σ → ServiceOperation → σ × Except Cause Unit) (state : σ) :
    List ServiceOperation → σ × Except Cause Unit
  | [] => (state, .ok ())
  | op :: rest =>
    match perform state op with
    | (state, .error e) => (state, .error e)
    | (state, .ok ()) => untilFailure perform state rest

/-- Performs all operations and returns the first failure. -/
def throughout (perform : σ → ServiceOperation → σ × Except Cause Unit) (state : σ)
    (failure : Option Cause) : List ServiceOperation → σ × Except Cause Unit
  | [] =>
    match failure with
    | none => (state, .ok ())
    | some e => (state, .error e)
  | op :: rest =>
    match perform state op with
    | (state, .error e) => throughout perform state (failure.or (some e)) rest
    | (state, .ok ()) => throughout perform state failure rest

end ServiceOperation

end ProcessorHost
