import ProcessorHost.Span
import ProcessorHost.Text.Quoted

/-!
# Options of a host

Everything that is needed to host one processor, given how the processor is represented.
-/

namespace ProcessorHost

/-- The size of the timing queue and how often the aggregates are reported. -/
structure TimingConfig where
  /-- Samples beyond this number are dropped. -/
  queueCapacity : Nat
  reportInterval : Option Span
deriving DecidableEq, Repr

namespace TimingConfig

def standard : TimingConfig := ⟨1024, none⟩

instance : Inhabited TimingConfig := ⟨standard⟩

def text (c : TimingConfig) : String :=
  let interval := match c.reportInterval with
    | none => "None"
    | some d => "Some(" ++ d.text ++ ")"
  Text.record "TimingConfig"
    [("queue_capacity", toString c.queueCapacity), ("report_interval", interval)] .complete

end TimingConfig

/-- How long a request may take. -/
structure NetworkConfig where
  requestTimeout : Span
deriving DecidableEq, Repr

namespace NetworkConfig

/-- Thirty seconds. -/
def standard : NetworkConfig := ⟨⟨30 * 1000000000, by decide⟩⟩

instance : Inhabited NetworkConfig := ⟨standard⟩

def text (c : NetworkConfig) : String :=
  Text.record "NetworkConfig" [("request_timeout", c.requestTimeout.text)] .complete

end NetworkConfig

structure HostOptions (Processor : Type) where
  /-- Required. -/
  processor : Option Processor
  /-- The identifier it is served under; its name if absent. -/
  identifier : Option String
  /-- Required. -/
  address : Option String
  /-- Zero leaves the choice to the system. -/
  port : UInt16
  /-- A fresh identifier is made if absent. -/
  uniqueServiceId : Option String
  register : Bool
  timing : TimingConfig
  network : NetworkConfig

namespace HostOptions

variable {Processor : Type}

def standard : HostOptions Processor :=
  { processor := none, identifier := none, address := some "127.0.0.1", port := 0,
    uniqueServiceId := none, register := false, timing := .standard, network := .standard }

/-- The options as a text, given the name of the processor. -/
def text (o : HostOptions Processor) (nameOf : Processor → String) : String :=
  Text.record "ProcessorServerOptions"
    [("processor", Text.quotedOption (o.processor.map nameOf)),
      ("identifier", Text.quotedOption o.identifier),
      ("address", Text.quotedOption o.address),
      ("port", toString o.port),
      ("unique_service_id", Text.quotedOption o.uniqueServiceId),
      ("register", toString o.register),
      ("timing", o.timing.text),
      ("network", o.network.text)] .complete

end HostOptions

end ProcessorHost
