import ProcessorHost.Clock
import ProcessorHost.Host.Clients
import ProcessorHost.Serving
import ProcessorHost.Timing.Collector

/-!
# The state of a host

Everything that a running host keeps: what its clients keep, the timing collector, the
serving state, the clocks, and what it has reported so far.
-/

namespace ProcessorHost

structure Host (E L : Type) where
  events : E
  lifecycle : L
  timing : Collector
  serving : Serving
  clocks : Clocks
  /-- The time of day. -/
  today : Timestamp
  /-- Nanoseconds since the host was built. -/
  now : Nat
  metrics : Metrics
  log : List LogRecord
  /-- Events whose leases a broken-off call left to be given back by themselves. -/
  orphans : List String
  /-- The number of times the processor was asked to work on an event. -/
  invocations : Nat
  /-- Samples of calls that have a sink of their own, with the number of the call. -/
  received : List (Nat × TimingSample)

namespace Host

variable {E L : Type}

/-- A host that has just been built. -/
def fresh (events : E) (lifecycle : L) (timing : Collector) : Host E L :=
  { events, lifecycle, timing, serving := .initial, clocks := ⟨0, 0⟩, today := .epoch, now := 0,
    metrics := .empty, log := [], orphans := [], invocations := 0, received := [] }

def note (host : Host E L) (record : LogRecord) : Host E L :=
  { host with log := host.log ++ [record] }

def noteAll (host : Host E L) (records : List LogRecord) : Host E L :=
  { host with log := host.log ++ records }

def count (host : Host E L) (key : CounterKey) : Host E L :=
  { host with metrics := host.metrics.increment key }

/-- Hands a sample to the collector. One that is dropped is counted and reported. -/
def submit (host : Host E L) (sample : TimingSample) : Host E L :=
  match host.timing.submit sample with
  | (timing, none) => { host with timing }
  | (timing, some reason) =>
    ({ host with timing }.count reason.counter).note (Collector.dropRecord sample reason)

/-- Lets the collector's worker run until it has to wait. -/
def pollTiming (host : Host E L) : Host E L :=
  let (timing, log) := host.timing.poll host.now
  { host with timing }.noteAll log

/-- What is reported of a lease that could not be given back. -/
def closeFailure (id : String) (e : Cause) : LogRecord :=
  ⟨.warn, "failed to release event", [("event_id", .text id), ("error", .text e.text)]⟩

/-- Gives the lease on an event back. A failure is reported and has no other effect. -/
def closeEvent (clients : Clients E L) (host : Host E L) (id : String) : Host E L :=
  match clients.events.closeEvent host.events id with
  | (events, .ok ()) => { host with events }
  | (events, .error e) => { host with events }.note (closeFailure id e)

/-- Gives the lease of the oldest broken-off call back. -/
def closeOrphan (clients : Clients E L) (host : Host E L) : Host E L :=
  match host.orphans with
  | [] => host
  | id :: rest => closeEvent clients { host with orphans := rest } id

def setHealth (clients : Clients E L) (host : Host E L) (service : String) (status : Health) :
    Host E L :=
  { host with lifecycle := clients.lifecycle.setHealth host.lifecycle service status }

def health (clients : Clients E L) (host : Host E L) (service : String) : Health :=
  clients.lifecycle.health host.lifecycle service

end Host

end ProcessorHost
