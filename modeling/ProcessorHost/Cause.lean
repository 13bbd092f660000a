/-!
# Reported causes

A cause is the message of something that failed, to which each place it passes through
may add what was being attempted there.
-/

namespace ProcessorHost

structure Cause where
  message : String
  /-- What was being attempted, the outermost attempt last. -/
  contexts : List String
deriving DecidableEq, Repr, Inhabited

namespace Cause

def of (message : String) : Cause := ⟨message, []⟩

/-- What is shown of a cause: the outermost attempt, or the message itself. -/
def text (c : Cause) : String := c.contexts.getLast?.getD c.message

end Cause

end ProcessorHost
