import ProcessorHost.Host.Server
import ProcessorHost.Net.ServerBuilder

/-!
# Building a host

From options and overrides everything that a host consists of is made once, in the order in
which one thing needs another. Building binds the processor that is hosted and starts a
timing collector, unless the service is given; when it fails after that, the collector is
left without anybody who could stop it, and so stops.
-/

namespace ProcessorHost

/-- What is given instead of being made from the options. -/
structure Overrides where
  processorName : Option String
  processorId : Option String
  contextManager : Option ContextManager
  processor : Option Processor
  runner : Option Runner
  service : Option ProcessorService
  serverBuilder : Option Net.ServerBuilder

instance : Inhabited Overrides := ⟨⟨none, none, none, none, none, none, none⟩⟩

/-- What a host consists of. -/
structure Graph where
  processorName : String
  processorId : String
  contextManager : ContextManager
  processor : Processor
  runner : Runner
  service : ProcessorService
  serverBuilder : Net.ServerBuilder

namespace Graph

/-- The server with the service of the graph and the health of the server. -/
def server (g : Graph) : Server :=
  .build g.serverBuilder.address g.serverBuilder.config g.service true

def text (g : Graph) : String :=
  Text.record "ProcessingGraph"
    [("processor_name", Text.quoted g.processorName), ("processor_id", Text.quoted g.processorId),
      ("server_builder", g.serverBuilder.text)] .partly

/-- What is reported of a graph. -/
def built (g : Graph) : LogRecord :=
  ⟨.info, "processing graph built",
    [("processor", .text g.processorId), ("name", .text g.processorName),
      ("address", .text g.serverBuilder.address.text)]⟩

end Graph

/-- What a build finds where it takes place. -/
structure BuildSite where
  /-- Whether background workers can run. -/
  runtime : Bool
  /-- An identifier that nobody else has. -/
  freshId : String
  lookup : Net.HostLookup

inductive BuildOutcome
  | built (graph : Graph)
  | refused (e : ConfigError)
  | panicked (message : String)

/-- What a build leaves behind. -/
structure Build where
  outcome : BuildOutcome
  /-- The processors that were bound, in order, with what they were bound to. -/
  binds : List (Processor × ProcessorBinding)
  /-- The collector that was started. -/
  timing : Option Collector
  log : List LogRecord

namespace Build

/-- What the hosted processor was bound to. -/
def bound (b : Build) : Option ProcessorBinding := b.binds.getLast?.map (·.2)

end Build

/-- Options, and what overrides them. -/
structure Builder where
  options : HostOptions Processor
  overrides : Overrides

namespace Builder

def text (b : Builder) : String :=
  Text.record "ProcessingBuilder"
    [("options", b.options.text (·.name)),
      ("processor_name", Text.quotedOption b.overrides.processorName),
      ("processor_id", Text.quotedOption b.overrides.processorId)] .partly

/-- Where the server is to listen. -/
def listening (b : Builder) (lookup : Net.HostLookup) : Except ConfigError Net.ServerBuilder :=
  match b.overrides.serverBuilder with
  | some builder => .ok builder
  | none =>
    match b.options.address with
    | none => .error .missingAddress
    | some host =>
      (Net.ServerBuilder.forAddress lookup host b.options.port).map fun builder =>
        { builder with config := b.options.network }

/-- The last part of a build: the graph for a service, or the failure. -/
def complete (b : Builder) (lookup : Net.HostLookup) (name id : String)
    (manager : ContextManager) (processor : Processor) (runner : Runner)
    (service : ProcessorService) : Except ConfigError Graph :=
  (b.listening lookup).map fun serverBuilder =>
    { processorName := name, processorId := id, contextManager := manager, processor, runner,
      service, serverBuilder }

/-- The outcome of the last part. -/
def outcome : Except ConfigError Graph → BuildOutcome × List LogRecord
  | .ok graph => (.built graph, [graph.built])
  | .error e => (.refused e, [])

/-- Builds what the options and overrides describe. -/
def build (b : Builder) (site : BuildSite) : Build :=
  match b.overrides.processor.or b.options.processor with
  | none => ⟨.refused .missingProcessor, [], none, []⟩
  | some processor =>
    let name := b.overrides.processorName.getD processor.name
    let id := (b.overrides.processorId.or b.options.identifier).getD name
    let manager := b.overrides.contextManager.getD ⟨id, .system⟩
    let binds := [(processor, manager.binding)]
    let hosted : ProcessorRunner := ⟨processor, manager.binding, manager, ⟨name, id⟩⟩
    let runner := b.overrides.runner.getD (.hosted hosted)
    match b.overrides.service with
    | some service =>
      let completed := b.complete site.lookup name id manager processor runner service
      let (outcome, log) := outcome completed
      ⟨outcome, binds, none, log⟩
    | none =>
      if b.options.timing.queueCapacity = 0 then ⟨.refused .invalidTimingQueue, binds, none, []⟩
      else if !site.runtime then ⟨.refused .runtimeUnavailable, binds, none, []⟩
      else
        let uniqueId := b.options.uniqueServiceId.getD site.freshId
        match Collector.start b.options.timing with
        | .error message => ⟨.panicked message, binds, none, []⟩
        | .ok (timing, started) =>
          let service : ProcessorService := ⟨runner, uniqueId, b.options.register⟩
          match b.complete site.lookup name id manager processor runner service with
          | .ok graph => ⟨.built graph, binds, some timing, [started, graph.built]⟩
          | .error e => ⟨.refused e, binds, some timing.abandon, [started]⟩

end Builder

end ProcessorHost
