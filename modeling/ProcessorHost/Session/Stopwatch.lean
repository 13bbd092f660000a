import ProcessorHost.Clock
import ProcessorHost.Session.Usage
import ProcessorHost.Text.Quoted

/-!
# Stopwatches

A stopwatch can be started and stopped any number of times; each stop ends an interval and
adds it to the total.
-/

namespace ProcessorHost

inductive StopwatchState
  | unstarted
  | running
  | stopped
deriving DecidableEq, Repr, Inhabited

namespace StopwatchState

def name : StopwatchState → String
  | unstarted => "Unstarted"
  | running => "Running"
  | stopped => "Stopped"

end StopwatchState

structure Stopwatch where
  label : String
  state : StopwatchState
  /-- The sum of the finished intervals since the last reset. -/
  accumulated : Span
  /-- The reading at which the current interval began. -/
  runningSince : Option UInt64
  clock : ClockSource
  /-- The scope that is told of finished intervals. -/
  scope : Option Nat
deriving DecidableEq, Repr, Inhabited

/-- The end of an interval. -/
inductive StopOutcome
  | refused (error : UsageError)
  /-- The total would be too long; the stopwatch is left without a start. -/
  | overflow (watch : Stopwatch)
  | stopped (watch : Stopwatch) (interval : Span)

namespace Stopwatch

def unstarted (label : String) (clock : ClockSource) (scope : Option Nat) : Stopwatch :=
  ⟨label, .unstarted, .zero, none, clock, scope⟩

def isRunning (w : Stopwatch) : Bool := w.state = .running

/-- Begins an interval, whatever the state. -/
def restart (w : Stopwatch) (now : UInt64) : Stopwatch :=
  { w with runningSince := some now, state := .running }

/-- Begins an interval unless one is running. -/
def start (w : Stopwatch) (now : UInt64) : Except UsageError Stopwatch :=
  if w.isRunning then .error (.alreadyRunning w.label) else .ok (w.restart now)

/-- Ends the running interval. -/
def stop (w : Stopwatch) (now : UInt64) : StopOutcome :=
  if w.isRunning then
    let interval := Span.between (w.runningSince.getD now) now
    match w.accumulated.add? interval with
    | some accumulated =>
      .stopped { w with runningSince := none, accumulated, state := .stopped } interval
    | none => .overflow { w with runningSince := none }
  else .refused (.notRunning w.label)

/-- The total, with the running interval; nothing when it would be too long. -/
def elapsed? (w : Stopwatch) (now : UInt64) : Option Span :=
  match w.runningSince with
  | some since =>
    if w.isRunning then w.accumulated.add? (.between since now) else some w.accumulated
  | none => some w.accumulated

/-- Back to the beginning; a running interval is forgotten. -/
def reset (w : Stopwatch) : Stopwatch :=
  { w with state := .unstarted, accumulated := .zero, runningSince := none }

def text (w : Stopwatch) : String :=
  Text.record "Stopwatch"
    [("label", Text.quoted w.label), ("state", w.state.name), ("accumulated", w.accumulated.text)]
    .partly

end Stopwatch

end ProcessorHost
