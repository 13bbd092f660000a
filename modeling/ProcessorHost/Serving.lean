/-!
# Serving state

Whether process calls are accepted, and how many are being worked on.
-/

namespace ProcessorHost

inductive ServingState
  | starting
  | ready
  | draining
  | stopped
deriving DecidableEq, Repr, Inhabited

namespace ServingState

def name : ServingState → String
  | starting => "starting"
  | ready => "ready"
  | draining => "draining"
  | stopped => "stopped"

def title : ServingState → String
  | starting => "Starting"
  | ready => "Ready"
  | draining => "Draining"
  | stopped => "Stopped"

end ServingState

/-- The serving state and the number of calls in flight, a 64-bit number. -/
structure Serving where
  state : ServingState
  inFlight : UInt64
deriving DecidableEq, Repr, Inhabited

namespace Serving

def initial : Serving := ⟨.starting, 0⟩

def setReady (s : Serving) : Serving := { s with state := .ready }

/-- From now on process calls are refused. -/
def triggerShutdown (s : Serving) : Serving := { s with state := .draining }

def setStopped (s : Serving) : Serving := { s with state := .stopped }

/-- A call begins. -/
def enter (s : Serving) : Serving := { s with inFlight := s.inFlight + 1 }

/-- A call ends, in whatever way. -/
def leave (s : Serving) : Serving := { s with inFlight := s.inFlight - 1 }

end Serving

end ProcessorHost
