import ProcessorHost.Host.State
import ProcessorHost.Processor.Processor

/-!
# Process calls

A call leases the event, opens a fresh scope, enters a context named after the processor in
it, and times the processor with a stopwatch of its own. The context and the lease are given
up on every way out: when the processor returns or panics, when giving up the context is
itself a fault, and when a call that waits is broken off. After a plain return the lease is
given back before the call answers; in all other cases it is left as an orphan of the host.
-/

namespace ProcessorHost

/-- A call whose processor waits. -/
structure Call where
  number : Nat
  /-- Whether samples go to the collector; otherwise the call has a sink of its own. -/
  feeds : Bool
  runner : ProcessorRunner
  event : Event
  /-- The processor's session, in which the scope of the call is the first. -/
  session : Session
  /-- The call's own context, which the processor does not hold. -/
  guard : Guard
  /-- The call's own stopwatch. -/
  watch : Stopwatch
  rest : Behaviour (Except Cause Json.Members)
  /-- When the processor goes on, if ever. -/
  wake : Option Nat

inductive CallOutcome
  | answered (result : Except ProcessingError ProcessResponse)
  | panicked (message : String)

/-- A call waits, or it has ended and leaves its session behind; without a lease there is
none. -/
inductive CallProgress
  | waits (call : Call)
  | ended (session : Option Session) (outcome : CallOutcome)

namespace Call

variable {E L : Type}

/-- The label of the stopwatch around the processor. -/
def methodLabel : String := "process_method"

/-- The number by which the session of a call knows the sink of the call. -/
def sink : Nat := 0

/-- The sums of the samples' durations by the text of their keys, in increasing order of
the texts; nothing if a sum would be too long. -/
def timings? (samples : List TimingSample) : Option (List (String × Span)) :=
  samples.foldlM (fun sums sample =>
    let key := sample.key.text
    (((Keyed.find? key sums).getD .zero).add? sample.duration).map fun sum =>
      Keyed.insert key sum sums) []

def surroundings (clients : Clients E L) (call : Call) : Surroundings (Host E L) where
  deliver host d :=
    if d.sink = sink then
      if call.feeds then host.submit d.sample
      else { host with received := host.received ++ [(call.number, d.sample)] }
    else host
  note := Host.note
  setHealth host status :=
    { host with
      lifecycle := call.runner.binding.setHealth clients.lifecycle host.lifecycle status }
  health host := call.runner.binding.health clients.lifecycle host.lifecycle

/-- Takes over a session, and passes on what it has given out since. -/
def pass (clients : Clients E L) (host : Host E L) (call : Call) (session : Session) :
    Host E L × Call :=
  ((call.surroundings clients).passOn host call.session.deliveries.length
      call.session.log.length session,
    { call with session })

/-- Leaves the lease to be given back later. -/
def orphan (host : Host E L) (call : Call) : Host E L :=
  { host with orphans := host.orphans ++ [call.event.id] }

/-- What the processor still holds is released, the latest first. -/
def releaseHeld (clients : Clients E L) (host : Host E L) (call : Call)
    (panic : Option String) : Host E L × Call × Option String :=
  let (session, panic) := call.session.releaseHeld panic
  let (host, call) := call.pass clients host session
  (host, call, panic)

/-- The call's own context is released. Contexts that the processor left entered make this
a panic, unless one is under way. -/
def releaseOwn (clients : Clients E L) (host : Host E L) (call : Call)
    (panic : Option String) : Host E L × Call × Option String :=
  let session := { call.session with held := [call.guard] }
  let (session, reply) := session.release call.guard panic.isSome
  let (host, call) := call.pass clients host session
  match reply with
  | .panicked message => (host, call, some message)
  | _ => (host, call, panic)

/-- Everything the call has entered is released. -/
def releaseAll (clients : Clients E L) (host : Host E L) (call : Call) (panic : Option String) :
    Host E L × Call × Option String :=
  let (host, call, panic) := call.releaseHeld clients host panic
  call.releaseOwn clients host panic

/-- Stops the call's own stopwatch; this records the sample of the whole call. -/
def stopWatch (clients : Clients E L) (host : Host E L) (call : Call) :
    Host E L × Call × StopOutcome :=
  let outcome := call.watch.stop (call.session.clocks.read call.watch.clock)
  match outcome with
  | .stopped watch interval =>
    let (host, call) := call.pass clients host (call.session.record 0 watch.label interval)
    (host, { call with watch }, outcome)
  | _ => (host, call, outcome)

/-- The answer, once the lease has been given back. -/
def answer (host : Host E L) (call : Call) (result : Except Cause Json.Members)
    (stopped : StopOutcome) : Host E L × CallOutcome :=
  match result, stopped with
  | .error e, _ => (host, .answered (.error (.processor e)))
  | .ok _, .refused e => (host, .answered (.error (.usage e)))
  | .ok result, _ =>
    match timings? (((call.session.scope? 0).map (·.samples)).getD []) with
    | none => (host, .panicked Span.overflowText)
    | some timing =>
      (host.note ⟨.debug, "event processed",
          [("processor", .text call.runner.identity.id), ("event_id", .text call.event.id),
            ("timings", .count timing.length)]⟩,
        .answered (.ok ⟨call.event.id, result, timing⟩))

/-- A panic ends the call: the lease is orphaned. -/
def panics (host : Host E L) (call : Call) (message : String) : Host E L × CallProgress :=
  (call.orphan host, .ended (some call.session) (.panicked message))

/-- The processor has returned. -/
def returned (clients : Clients E L) (host : Host E L) (call : Call)
    (result : Except Cause Json.Members) : Host E L × CallProgress :=
  match call.releaseHeld clients host none with
  | (host, call, some message) =>
    let (host, call, _) := call.releaseOwn clients host (some message)
    call.panics host message
  | (host, call, none) =>
    match call.stopWatch clients host with
    | (host, call, .overflow _) =>
      let (host, call, _) := call.releaseOwn clients host (some Span.overflowText)
      call.panics host Span.overflowText
    | (host, call, stopped) =>
      match call.releaseOwn clients host none with
      | (host, call, some message) => call.panics host message
      | (host, call, none) =>
        let (host, outcome) := call.answer (host.closeEvent clients call.event.id) result stopped
        (host, .ended (some call.session) outcome)

/-- Lets the processor go on with a behaviour. -/
def goOn (clients : Clients E L) (host : Host E L) (call : Call)
    (behaviour : Behaviour (Except Cause Json.Members)) : Host E L × CallProgress :=
  let session := { call.session with clocks := host.clocks, today := host.today }
  let (host, session, halt) := behaviour.run (call.surroundings clients) host session
  let host := { host with clocks := session.clocks }
  let call := { call with session }
  match halt with
  | .returned result => call.returned clients host result
  | .panicked message =>
    let (host, call, _) := call.releaseAll clients host (some message)
    call.panics host message
  | .sleeping ms rest => (host, .waits { call with rest, wake := some (host.now + ms * 1000000) })
  | .pending => (host, .waits { call with rest := .pend, wake := none })

/-- Lets a waiting call go on if its time has come. -/
def resume (clients : Clients E L) (host : Host E L) (call : Call) : Host E L × CallProgress :=
  match call.wake with
  | some time => if time ≤ host.now then call.goOn clients host call.rest else (host, .waits call)
  | none => (host, .waits call)

/-- Breaks a waiting call off. Contexts that were left entered make this a panic. -/
def breakOff (clients : Clients E L) (host : Host E L) (call : Call) :
    Host E L × Option String :=
  let (host, call, panic) := call.releaseAll clients host none
  (call.orphan host, panic)

/-- What is reported of a lease that nobody is left to give back. -/
def lost (id : String) : LogRecord :=
  ⟨.warn, "no runtime to release abandoned event", [("event_id", .text id)]⟩

/-- Breaks a waiting call off after everything else has stopped: the lease is lost. -/
def breakOffLate (clients : Clients E L) (host : Host E L) (call : Call) :
    Host E L × Option String :=
  let (host, call, panic) := call.releaseAll clients host none
  (host.note (lost call.event.id), panic)

end Call

namespace ProcessorRunner

variable {E L : Type}

/-- The call for an event that has been leased, before the processor begins. -/
def prepare (r : ProcessorRunner) (host : Host E L) (number : Nat) (feeds : Bool)
    (event : Event) : Call :=
  let reading := host.clocks.read r.manager.clock
  let (frame, scope) := (r.manager.scope (some Call.sink)).enter r.identity.id reading
  { number, feeds, runner := r, event
    session := { Session.fresh with clocks := host.clocks, today := host.today, scopes := [scope] }
    guard := ⟨0, frame, r.identity.id⟩
    watch := (Stopwatch.unstarted Call.methodLabel r.manager.clock (some 0)).restart reading
    rest := .pend
    wake := none }

/-- Begins a call. -/
def beginCall (clients : Clients E L) (r : ProcessorRunner) (host : Host E L) (number : Nat)
    (feeds : Bool) (request : ProcessRequest) : Host E L × CallProgress :=
  match clients.events.openEvent host.events request.eventId with
  | (events, .error e) =>
    ({ host with events }, .ended none (.answered (.error (.eventsClient e))))
  | (events, .ok event) =>
    let host := { host with events, invocations := host.invocations + 1 }
    (r.prepare host number feeds event).goOn clients host
      (r.processor.work r.binding event request.params)

end ProcessorRunner

namespace Runner

variable {E L : Type}

/-- Begins a call of any runner. -/
def beginCall (clients : Clients E L) (r : Runner) (host : Host E L) (number : Nat) (feeds : Bool)
    (request : ProcessRequest) : Host E L × CallProgress :=
  match r with
  | hosted r => r.beginCall clients host number feeds request
  | other _ answer => (host, .ended none (.answered (answer request)))

end Runner

end ProcessorHost
