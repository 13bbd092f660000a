import ProcessorHost.Clock
import ProcessorHost.Session.Usage
import ProcessorHost.Text.Quoted
import ProcessorHost.Timing.Sample

/-!
# Scopes and their contexts

A scope holds a stack of named contexts that were entered and not yet released. Each has a
number of its own in the scope, by which the guard that was handed out for it finds it.
-/

namespace ProcessorHost

/-- A named operation and the reading at which it was entered. -/
structure Context where
  label : String
  enteredAt : UInt64
deriving DecidableEq, Repr, Inhabited

/-- A context on the stack. -/
structure Frame where
  id : UInt64
  context : Context
deriving DecidableEq, Repr, Inhabited

/-- The handle to an entered context: its scope, its number there, and its label. -/
structure Guard where
  scope : Nat
  id : UInt64
  label : String
deriving DecidableEq, Repr, Inhabited

namespace Guard

def text (g : Guard) : String :=
  Text.record "ContextGuard" [("label", Text.quoted g.label), ("id", toString g.id)] .partly

end Guard

structure Scope where
  clock : ClockSource
  /-- Where samples go besides the scope's own list. -/
  sink : Option Nat
  /-- The innermost context first. -/
  frames : List Frame
  nextId : UInt64
  /-- In the order of recording. -/
  samples : List TimingSample
deriving DecidableEq, Repr, Inhabited

namespace Scope

def fresh (clock : ClockSource) (sink : Option Nat) : Scope := ⟨clock, sink, [], 0, []⟩

/-- The innermost context. -/
def current? (s : Scope) : Option Context := s.frames.head?.map (·.context)

def depth (s : Scope) : Nat := s.frames.length

/-- The label of the innermost context, or nothing. -/
def activeLabel (s : Scope) : String := (s.current?.map (·.label)).getD ""

/-- Enters a context and returns its number. -/
def enter (s : Scope) (label : String) (now : UInt64) : UInt64 × Scope :=
  (s.nextId, { s with frames := ⟨s.nextId, ⟨label, now⟩⟩ :: s.frames, nextId := s.nextId + 1 })

/-- Whether the number is that of the innermost context. -/
def isInnermost (s : Scope) (id : UInt64) : Bool :=
  match s.frames with
  | [] => false
  | top :: _ => top.id == id

/-- Removes the context with a number. -/
def remove (s : Scope) (id : UInt64) : Scope :=
  if s.isInnermost id then { s with frames := s.frames.tail }
  else { s with frames := s.frames.filter fun f => f.id != id }

def text (s : Scope) : String :=
  Text.record "ProcessingScope" [("depth", toString s.depth)] .partly

end Scope

end ProcessorHost
