import ProcessorHost.Cli.ServerArgs
import ProcessorHost.Host.Builder
import ProcessorHost.Host.Serve
import ProcessorHost.Net.Machine

/-!
# Launching a server

From a command line and the environment to a server that listens, or the reason why there
is none. The arguments come first, then the endpoint of the metrics, then the options of the
host, and the endpoint of the server last.
-/

namespace ProcessorHost.Cli

/-- Why a program ends before it serves. -/
inductive Refusal
  | usage (e : CommandLineError)
  | metrics (e : Net.ListenError)
  | config (e : ConfigError)
  | listen (e : Net.ListenError)
  | panicked (message : String)

namespace Refusal

/-- The exit code of the program. -/
def exitCode : Refusal → UInt32
  | usage .help => 0
  | usage .version => 0
  | usage _ => 2
  | panicked _ => 101
  | _ => 1

/-- The text that the program was asked for, if it was. -/
def answer? : Refusal → Option String
  | usage .help => some (usageText ServerArgs.programName ServerArgs.options)
  | usage .version =>
    CommandLineError.version.message ServerArgs.programName ServerArgs.programVersion
  | _ => none

/-- What the program complains about, if it was not asked for a text. -/
def complaint? : Refusal → Option String
  | usage .help => none
  | usage .version => none
  | usage e => e.message ServerArgs.programName ServerArgs.programVersion
  | metrics e => some ("Error: failed to create HTTP listener: " ++ e.message)
  | config e => some ("Error: " ++ e.message)
  | listen e => some ("Error: " ++ e.message)
  | panicked message => some message

end Refusal

/-- A server that listens. -/
structure Launch where
  args : ServerArgs
  server : Server
  /-- Where it listens. -/
  address : Net.Endpoint
  host : Host EventStore Lifecycle

namespace Launch

/-- Has the machine listen for those who read the metrics. -/
def exportMetrics (machine : Net.Machine) :
    Option Net.Endpoint → Except Refusal (Net.Machine × List LogRecord)
  | none => .ok (machine, [])
  | some e =>
    match machine.listen e with
    | .error e => .error (.metrics e)
    | .ok (_, machine) =>
      .ok (machine, [⟨.info, "prometheus exporter listening", [("address", .text e.text)]⟩])

/-- A host for a processor that was built, and its server. -/
def ofBuild (build : Build) : Except Refusal (Server × Host EventStore Lifecycle) :=
  match build.outcome, build.timing with
  | .refused e, _ => .error (.config e)
  | .panicked message, _ => .error (.panicked message)
  | .built _, none => .error (.config .runtimeUnavailable)
  | .built graph, some timing =>
    .ok (graph.server, (Host.fresh .empty .empty timing).noteAll build.log)

/-- Launches a server for a processor. -/
def ofCommandLine (machine : Net.Machine) (processor : Processor) (freshId : String)
    (arguments : List String) (env : List (String × String)) : Except Refusal Launch := do
  let args ← (ServerArgs.parse arguments env).mapError .usage
  let (machine, exporting) ← exportMetrics machine args.metricsAddr
  let builder : Builder := ⟨args.hostOptions processor, default⟩
  let (server, host) ← ofBuild (builder.build ⟨true, freshId, machine.lookup⟩)
  match machine.listen server.address with
  | .error e => .error (.listen e)
  | .ok (address, _) =>
    let starting : LogRecord :=
      ⟨.info, "docproc server starting", [("address", .text address.text)]⟩
    let log := exporting ++ host.log ++ [Executor.bound address, starting]
    return { args, server, address, host := { host with log } }

/-- The clients of a server that was launched: they keep everything in this process. -/
def clients : Clients EventStore Lifecycle := ⟨EventStore.client, Lifecycle.client⟩

/-- The exit code when serving has ended, and what is complained about. -/
def ending : Except Cause Unit → UInt32 × Option String
  | .ok () => (0, none)
  | .error e => (1, some ("Error: " ++ e.text))

/-- What becomes of the program if nobody sends a request before it is told to stop. -/
def idle (launch : Launch) (fuel : Nat) : UInt32 × Option String :=
  let e : Executor EventStore Lifecycle := ⟨launch.host, [], [], []⟩
  let (_, _, result) := e.serve clients launch.server fuel launch.address fun e => (e, ())
  ending result

end Launch

end ProcessorHost.Cli
