import ProcessorHost.Host.Options
import ProcessorHost.Net.Parse

/-!
# Where and how to listen
-/

namespace ProcessorHost.Net

/-- A bind address with transport settings, before any service is attached. -/
structure ServerBuilder where
  address : Endpoint
  config : NetworkConfig
deriving DecidableEq, Repr

namespace ServerBuilder

/-- Listens on an endpoint, with the default settings. -/
def forEndpoint (address : Endpoint) : ServerBuilder := ⟨address, .standard⟩

/-- Listens on the endpoint of a host and a port, with the default settings. -/
def forAddress (lookup : HostLookup) (host : String) (port : UInt16) :
    Except ConfigError ServerBuilder :=
  (Endpoint.resolve lookup host port).map forEndpoint

def text (b : ServerBuilder) : String :=
  Text.record "ServerBuilder"
    [("address", b.address.text), ("config", b.config.text), ("service", "None"),
      ("health", "None")] .complete

end ServerBuilder

end ProcessorHost.Net
