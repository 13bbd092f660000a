/-!
# Misuse of stopwatches and contexts
-/

namespace ProcessorHost

/-- A call that the state of a stopwatch or of a context stack forbids. -/
inductive UsageError
  | alreadyRunning (label : String)
  | notRunning (label : String)
  | outOfOrderExit (label active : String)
deriving DecidableEq, Repr

namespace UsageError

def message : UsageError → String
  | alreadyRunning label => "stopwatch `" ++ label ++ "` is already running"
  | notRunning label => "stopwatch `" ++ label ++ "` is not running"
  | outOfOrderExit label active =>
    "context `" ++ label ++ "` exited while `" ++ active ++ "` is the active context"

end UsageError

end ProcessorHost
