import ProcessorHost.Timing.Aggregate
import ProcessorHost.Worker.Worker
import ProcessorHost.Host.Options

/-!
# The timing collector

Samples are handed to a worker through a bounded queue without ever waiting; one that finds
no room, or a closed queue, is dropped and counted. Requests for a summary go through the
same queue and may wait for room. A sample whose total would be too long ends the worker.
-/

namespace ProcessorHost

/-- What the collector's worker is asked to do. -/
inductive TimingTask
  | record (sample : TimingSample)
  /-- Reply to a request with the aggregate as it stands. -/
  | summary (request : Nat)
deriving DecidableEq, Repr

/-- What the collector's worker keeps. -/
structure Ledger where
  aggregate : TimingAggregate
  /-- Replies that were given, by request. -/
  replies : List (Nat × TimingAggregate)
  log : List LogRecord
deriving DecidableEq, Repr

namespace Ledger

def empty : Ledger := ⟨.empty, [], []⟩

/-- Carries out one task. -/
def run (l : Ledger) : TimingTask → Except Ledger Ledger
  | .record sample =>
    match l.aggregate.record sample with
    | .ok aggregate => .ok { l with aggregate }
    | .error (_, aggregate) => .error { l with aggregate }
  | .summary request => .ok { l with replies := l.replies ++ [(request, l.aggregate)] }

def runnable : Runnable Ledger TimingTask where
  duration _ := 0
  run := run
  tick l := .ok { l with log := l.log ++ l.aggregate.report }
  shutdown l := .ok { l with log := l.log ++ [l.aggregate.farewell] }

end Ledger

/-- Why a sample was dropped. -/
inductive DropReason
  | queueFull
  | collectorStopped
deriving DecidableEq, Repr

namespace DropReason

def name : DropReason → String
  | queueFull => "queue_full"
  | collectorStopped => "collector_stopped"

/-- The counter of samples dropped for this reason. -/
def counter (r : DropReason) : CounterKey :=
  ⟨"docproc_timing_samples_dropped_total", [("reason", r.name)], false⟩

end DropReason

structure Collector where
  worker : Worker Ledger TimingTask
  /-- The number of dropped samples, without a bound; no program drops the `2 ^ 64` samples that a
  counter of 64 bits could not hold. -/
  dropped : Nat
  /-- Whether it has not been shut down. -/
  running : Bool
deriving Repr

/-- Why there is no summary. -/
inductive SummaryError
  | shutDown
  | stoppedBeforeReply
deriving DecidableEq, Repr

namespace SummaryError

def cause : SummaryError → Cause
  | shutDown => .of "timing collector is shut down"
  | stoppedBeforeReply => .of "timing collector stopped before replying"

end SummaryError

namespace Collector

/-- What is reported when a collector starts. -/
def startRecord (capacity : Nat) : LogRecord :=
  ⟨.info, "timing collector started", [("capacity", .count capacity)]⟩

/-- A new collector, or the text of the panic for a capacity that no queue has. -/
def start (config : TimingConfig) : Except String (Collector × LogRecord) :=
  match Worker.start config.queueCapacity (config.reportInterval.map (·.nanos)) Ledger.empty with
  | .error message => .error message
  | .ok worker => .ok (⟨worker, 0, true⟩, startRecord config.queueCapacity)

/-- What is reported of a dropped sample. -/
def dropRecord (sample : TimingSample) (reason : DropReason) : LogRecord :=
  ⟨.warn, "timing sample dropped",
    [("key", .text sample.key.text), ("reason", .text reason.name)]⟩

/-- Takes a sample, or drops it for a reason. -/
def submit (c : Collector) (sample : TimingSample) : Collector × Option DropReason :=
  match c.worker.trySubmit (.record sample) with
  | .ok worker => ({ c with worker }, none)
  | .error (.full _) => ({ c with dropped := c.dropped + 1 }, some .queueFull)
  | .error (.closed _) => ({ c with dropped := c.dropped + 1 }, some .collectorStopped)

/-- Lets the worker run until it has to wait; what it reported is taken out. -/
def poll (c : Collector) (now : Nat) : Collector × List LogRecord :=
  let worker := c.worker.poll Ledger.runnable now
  ({ c with worker := { worker with state := { worker.state with log := [] } } }, worker.state.log)

/-- A request for a summary. -/
inductive SummaryRequest
  /-- It waits for room in the queue. -/
  | waiting
  /-- It is in the queue, or has been answered. -/
  | queued
deriving DecidableEq, Repr

/-- Asks for a summary. -/
def ask (c : Collector) (request : Nat) : Collector × Except SummaryError SummaryRequest :=
  match c.worker.submit request (.summary request) with
  | (worker, .accepted) => ({ c with worker }, .ok .queued)
  | (worker, .waits) => ({ c with worker }, .ok .waiting)
  | (worker, .closed) => ({ c with worker }, .error .shutDown)

/-- What becomes of a request for a summary when it is looked at again. -/
inductive SummaryProgress
  | pending (request : SummaryRequest)
  | done (result : Except SummaryError TimingAggregate)

/-- The reply to a request that is in the queue, if it has come or cannot come any more. -/
def reply (c : Collector) (request : Nat) : SummaryProgress :=
  match c.worker.state.replies.find? fun entry => entry.1 = request with
  | some (_, aggregate) => .done (.ok aggregate)
  | none =>
    if c.worker.isOver then .done (.error .stoppedBeforeReply) else .pending .queued

/-- Looks at a request again. -/
def resume (c : Collector) (request : Nat) : SummaryRequest → Collector × SummaryProgress
  | .queued => (c, c.reply request)
  | .waiting =>
    match c.worker.resume request (.summary request) with
    | (worker, .accepted) =>
      let c := { c with worker }
      (c, c.reply request)
    | (worker, .waits) => ({ c with worker }, .pending .waiting)
    | (worker, .closed) => ({ c with worker }, .done (.error .shutDown))

/-- Whether a request would get further if it were looked at again. -/
def canResume (c : Collector) (request : Nat) : SummaryRequest → Bool
  | .queued =>
    c.worker.isOver || c.worker.state.replies.any fun entry => entry.1 = request
  | .waiting => c.worker.canResume request

/-- Asks for a summary and lets the worker run until the request is settled. The worker
empties its queue whenever it runs: a request that waits for room has room kept for it when
it is looked at again, and has its reply the time after. -/
def summarise (c : Collector) (now request : Nat) :
    Collector × List LogRecord × Except SummaryError TimingAggregate :=
  match c.ask request with
  | (c, .error e) => (c, [], .error e)
  | (c, .ok state) =>
    let (c, first) := c.poll now
    match c.resume request state with
    | (c, .done result) => (c, first, result)
    | (c, .pending state) =>
      let (c, second) := c.poll now
      match c.resume request state with
      | (c, .done result) => (c, first ++ second, result)
      | (c, .pending _) => (c, first ++ second, .error .stoppedBeforeReply)

/-- The collector at a later moment, when nothing is asked of it in between. -/
def advance (c : Collector) (now later : Nat) : Collector × List LogRecord :=
  ({ c with worker := c.worker.advance Ledger.runnable now later }).poll later

/-- Tells the worker to stop; only the first call does anything. -/
def shutdown (c : Collector) : Collector :=
  if c.running then { c with worker := c.worker.askStop, running := false } else c

/-- Nobody is left who could stop the worker. -/
def abandon (c : Collector) : Collector := { c with worker := c.worker.askStop }

def text (c : Collector) : String :=
  Text.record "TimingCollector"
    [("running", toString c.running), ("dropped", toString c.dropped)] .complete

end Collector

end ProcessorHost
