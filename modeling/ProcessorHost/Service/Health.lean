import ProcessorHost.Host.Clients
import ProcessorHost.Session.Scope
import ProcessorHost.Text.Quoted

/-!
# Health of the whole server

The server as a whole is serving once every service that was registered before this one
has started, and stops serving before any of them is stopped.
-/

namespace ProcessorHost

namespace HealthService

/-- The name under which this service is registered. -/
def serviceName : String := "health"

def text (l : Lifecycle) : String :=
  Text.record "HealthService" [("server", (l.healthOf Lifecycle.serverName).title)] .partly

end HealthService

/-- What identifies a processor to the lifecycle it reports its health to. -/
structure ProcessorBinding where
  processorId : String
deriving DecidableEq, Repr, Inhabited

namespace ProcessorBinding

variable {L : Type}

/-- Reports the health of the processor. -/
def setHealth (b : ProcessorBinding) (client : LifecycleClient L) (l : L) (status : Health) : L :=
  client.setHealth l b.processorId status

/-- The health that was last reported of the processor. -/
def health (b : ProcessorBinding) (client : LifecycleClient L) (l : L) : Health :=
  client.health l b.processorId

def text (b : ProcessorBinding) : String :=
  Text.record "ProcessorBinding" [("processor_id", Text.quoted b.processorId)] .partly

end ProcessorBinding

/-- Makes the scopes and the binding of one processor. -/
structure ContextManager where
  processorId : String
  clock : ClockSource
deriving DecidableEq, Repr, Inhabited

namespace ContextManager

def binding (m : ContextManager) : ProcessorBinding := ⟨m.processorId⟩

/-- The scope of a new request, whose samples go to a sink. -/
def scope (m : ContextManager) (sink : Option Nat) : Scope := .fresh m.clock sink

def text (m : ContextManager) : String :=
  Text.record "ContextManager" [("processor_id", Text.quoted m.processorId)] .partly

end ContextManager

end ProcessorHost
