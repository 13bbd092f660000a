import ProcessorHost.Span

/-!
# Clocks

Readings are nanoseconds in 64 bits. The manual clock moves only when it is advanced and
wraps around; the system clock is moved by the surroundings.
-/

namespace ProcessorHost

inductive ClockSource
  | manual
  | system
deriving DecidableEq, Repr, Inhabited

/-- The readings of both clocks. -/
structure Clocks where
  manual : UInt64
  system : UInt64
deriving DecidableEq, Repr, Inhabited

namespace Clocks

def read (c : Clocks) : ClockSource → UInt64
  | .manual => c.manual
  | .system => c.system

/-- The step by which the manual clock is advanced: at most the greatest 64-bit number. -/
def step (amount : Span) : UInt64 := UInt64.ofNat (min amount.nanos (0x10000000000000000 - 1))

/-- Moves the manual clock forward, modulo `2 ^ 64` nanoseconds. -/
def advance (c : Clocks) (amount : Span) : Clocks := { c with manual := c.manual + step amount }

end Clocks

end ProcessorHost
