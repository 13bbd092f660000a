import ProcessorHost.Cause
import ProcessorHost.Session.Usage

/-!
# Errors of configuration and of process calls
-/

namespace ProcessorHost

/-- Why a host cannot be built. -/
inductive ConfigError
  | missingProcessor
  | missingAddress
  | invalidAddress (address reason : String)
  | invalidTimingQueue
  | missingService
  | runtimeUnavailable
deriving DecidableEq, Repr

namespace ConfigError

def message : ConfigError → String
  | missingProcessor => "processor must be specified"
  | missingAddress => "server address must be specified"
  | invalidAddress address reason => "invalid server address " ++ address ++ ": " ++ reason
  | invalidTimingQueue => "timing queue capacity must be at least 1"
  | missingService => "server builder has no processor service attached"
  | runtimeUnavailable => "processing graph must be built inside a tokio runtime"

end ConfigError

/-- Why a process call failed. -/
inductive ProcessingError
  | eventsClient (cause : Cause)
  | processor (cause : Cause)
  | usage (error : UsageError)
deriving DecidableEq, Repr

namespace ProcessingError

def message : ProcessingError → String
  | eventsClient cause => "events client failed: " ++ cause.text
  | processor cause => "processor failed: " ++ cause.text
  | usage error => error.message

end ProcessingError

/-- Why a request over the network is not answered with what was asked for. -/
inductive ApiError
  | unknownProcessor (id : String)
  | unavailable
  | processing (error : ProcessingError)
  | timing (cause : Cause)
deriving DecidableEq, Repr

namespace ApiError

def message : ApiError → String
  | unknownProcessor id => "unknown processor: " ++ id
  | unavailable => "server is not accepting requests"
  | processing error => error.message
  | timing cause => "timing summary unavailable: " ++ cause.text

/-- The status code of the answer. -/
def status : ApiError → Nat
  | unknownProcessor _ => 404
  | unavailable => 503
  | timing _ => 503
  | processing (.eventsClient _) => 502
  | processing _ => 500

end ApiError

end ProcessorHost
