import ProcessorHost.Cli.CommandLine
import ProcessorHost.Host.Options
import ProcessorHost.Net.Parse

/-!
# Arguments of the server
-/

namespace ProcessorHost.Cli

/-- What the command line of the server can set. -/
structure ServerArgs where
  host : String
  port : UInt16
  identifier : Option String
  uniqueServiceId : Option String
  register : Bool
  timingQueueCapacity : Nat
  logJson : Bool
  metricsAddr : Option Net.Endpoint
deriving DecidableEq, Repr

namespace ServerArgs

/-- The name and the version of the program. -/
def programName : String := "docproc-server"

def programVersion : String := "0.1.0"

/-- The port that a text names. -/
def readPort (s : String) : Except String UInt16 :=
  match signed64 s with
  | .error e => .error e.message
  | .ok n =>
    if 0 ≤ n ∧ n ≤ 65535 then .ok (.ofNat n.toNat)
    else .error (toString n ++ " is not in 0..=65535")

/-- The queue capacity that a text names. -/
def readCapacity (s : String) : Except String Nat :=
  match unsigned64 s with
  | .error e => .error e.message
  | .ok 0 => .error "0 is not in 1..18446744073709551615"
  | .ok n => .ok n

/-- The endpoint that a text names. -/
def readEndpoint (s : String) : Except String Net.Endpoint :=
  match Net.Endpoint.ofText? s with
  | some e => .ok e
  | none => .error "invalid socket address syntax"

/-- The reason to refuse a value. -/
def refusal {α : Type} (read : String → Except String α) (s : String) : Option String :=
  match read s with
  | .ok _ => none
  | .error reason => some reason

/-- An option that takes a value and may come from the environment. -/
def valueOption (long : String) (short : Option Char) (placeholder env : String)
    (check : String → Option String) : OptionSpec :=
  ⟨long, short, .value placeholder check, some env⟩

def options : List OptionSpec := [
  valueOption "host" none "HOST" "DOCPROC_HOST" fun _ => none,
  valueOption "port" (some 'p') "PORT" "DOCPROC_PORT" (refusal readPort),
  valueOption "identifier" none "IDENTIFIER" "DOCPROC_IDENTIFIER" fun _ => none,
  valueOption "unique-service-id" none "UNIQUE_SERVICE_ID" "DOCPROC_UNIQUE_SERVICE_ID"
    fun _ => none,
  ⟨"register", none, .switch, some "DOCPROC_REGISTER"⟩,
  valueOption "timing-queue-capacity" none "TIMING_QUEUE_CAPACITY"
    "DOCPROC_TIMING_QUEUE_CAPACITY" (refusal readCapacity),
  ⟨"log-json", none, .switch, some "DOCPROC_LOG_JSON"⟩,
  valueOption "metrics-addr" none "METRICS_ADDR" "DOCPROC_METRICS_ADDR" (refusal readEndpoint),
  ⟨"help", some 'h', .help, none⟩,
  ⟨"version", some 'V', .version, none⟩]

/-- The arguments from the values that were given. -/
def ofGiven (given : Given) : ServerArgs :=
  { host := (given.value? "host").getD "127.0.0.1"
    port := ((given.value? "port").bind fun s => (readPort s).toOption).getD 9090
    identifier := given.value? "identifier"
    uniqueServiceId := given.value? "unique-service-id"
    register := given.value? "register" = some "true"
    timingQueueCapacity :=
      ((given.value? "timing-queue-capacity").bind fun s => (readCapacity s).toOption).getD 1024
    logJson := given.value? "log-json" = some "true"
    metricsAddr := (given.value? "metrics-addr").bind fun s => (readEndpoint s).toOption }

/-- The arguments from a command line and the environment. -/
def parse (arguments : List String) (env : List (String × String)) :
    Except CommandLineError ServerArgs :=
  (matchLine options arguments env).map ofGiven

/-- The options of a host for a processor. -/
def hostOptions {Processor : Type} (a : ServerArgs) (processor : Processor) :
    HostOptions Processor :=
  { (HostOptions.standard : HostOptions Processor) with
    processor := some processor
    identifier := a.identifier
    address := some a.host
    port := a.port
    uniqueServiceId := a.uniqueServiceId
    register := a.register
    timing := { TimingConfig.standard with queueCapacity := a.timingQueueCapacity } }

end ServerArgs

end ProcessorHost.Cli
