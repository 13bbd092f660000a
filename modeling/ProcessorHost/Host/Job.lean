import ProcessorHost.Host.Server

/-!
# Jobs

A job is something that somebody waits for: a request over the network, a call of the
service or of the runner itself, or a request for a summary. It goes on each time it is
looked at, until it has an answer, its time is up, or it is broken off.
-/

namespace ProcessorHost

/-- Who waits for a job. -/
inductive Origin
  | runner
  | service
  /-- Over the network, with the identifier of the request. -/
  | network (requestId : String) (headOnly : Bool)
deriving DecidableEq, Repr

/-- How far a job has come. -/
inductive JobStage
  | calling (call : Call)
  | summarising (request : Collector.SummaryRequest)

structure Job where
  number : Nat
  origin : Origin
  stage : JobStage
  /-- When its time is up. -/
  deadline : Option Nat

/-- How a job ends. -/
inductive Answer
  | responded (response : Http.Response)
  | called (result : Except ProcessingError ProcessResponse)
  | summarised (result : Except SummaryError TimingAggregate)
  | timedOut
  | cancelled
  | panicked (message : String)

/-- A job that waits, or its answer. -/
inductive JobProgress
  | waits (job : Job)
  | answered (answer : Answer)

namespace Origin

/-- Whether calls count as calls of the service. -/
def isServed : Origin → Bool
  | runner => false
  | _ => true

/-- A response as it is sent to whoever waits. -/
def send (origin : Origin) (response : Http.Response) : Answer :=
  match origin with
  | network requestId headOnly =>
    let response := { response with requestId := some requestId }
    .responded (if headOnly then response.headOnly else response)
  | _ => .responded response

/-- The answer to a call that did not panic. -/
def answerCall (origin : Origin) (result : Except ProcessingError ProcessResponse) : Answer :=
  match origin with
  | network .. =>
    match result with
    | .ok response => origin.send (.json 200 response.value)
    | .error e => origin.send (ApiError.processing e).response
  | _ => .called result

/-- The answer to a request for a summary. -/
def answerSummary (origin : Origin) (result : Except SummaryError TimingAggregate) : Answer :=
  match origin with
  | network .. =>
    match result with
    | .ok aggregate => origin.send (.json 200 aggregate.value)
    | .error e => origin.send (ApiError.timing e.cause).response
  | _ => .summarised result

/-- The answer when the time is up. Over the network it bears no identifier. -/
def answerLate : Origin → Answer
  | network .. => .responded (.bare 408)
  | _ => .timedOut

end Origin

namespace Host

variable {E L : Type}

/-- A process call is let in over the network. -/
def enter (host : Host E L) : Host E L := { host with serving := host.serving.enter }

def leave (host : Host E L) : Host E L := { host with serving := host.serving.leave }

end Host

namespace Job

variable {E L : Type}

/-- A call that was let in over the network has ended in whatever way. -/
def release (origin : Origin) (host : Host E L) : Host E L :=
  match origin with
  | .network .. => host.leave
  | _ => host

/-- What becomes of a job when its call has come further. -/
def ofCall (server : Server) (host : Host E L) (number : Nat) (origin : Origin)
    (deadline : Option Nat) : CallProgress → Host E L × JobProgress
  | .waits call => (host, .waits ⟨number, origin, .calling call, deadline⟩)
  | .ended _ outcome =>
    let host := if origin.isServed then server.service.conclude host outcome else host
    let host := release origin host
    match outcome with
    | .answered result => (host, .answered (origin.answerCall result))
    | .panicked message => (host, .answered (.panicked message))

/-- What becomes of a job when its request for a summary has come further. -/
def ofSummary (timing : Collector) (host : Host E L) (number : Nat) (origin : Origin)
    (deadline : Option Nat) : Collector.SummaryProgress → Host E L × JobProgress
  | .pending request =>
    ({ host with timing }, .waits ⟨number, origin, .summarising request, deadline⟩)
  | .done result => ({ host with timing }, .answered (origin.answerSummary result))

/-- Begins a process call. -/
def call (clients : Clients E L) (server : Server) (host : Host E L) (number : Nat)
    (origin : Origin) (deadline : Option Nat) (runner : Runner) (request : ProcessRequest) :
    Host E L × JobProgress :=
  let host := match origin with
    | .network .. => host.enter
    | _ => host
  let (host, progress) := runner.beginCall clients host number origin.isServed request
  ofCall server host number origin deadline progress

/-- Asks for a summary. -/
def summarise (host : Host E L) (number : Nat) (origin : Origin) (deadline : Option Nat) :
    Host E L × JobProgress :=
  match host.timing.ask number with
  | (timing, .ok request) => ofSummary timing host number origin deadline (.pending request)
  | (timing, .error e) => ofSummary timing host number origin deadline (.done (.error e))

/-- A request arrives over the network. Without any time it is not even looked at: here a timer of
no length is due as soon as it is asked. Where timers round up to the next millisecond of a clock
that runs, such a request might still be answered before its timer is due. -/
def arrive (clients : Clients E L) (server : Server) (host : Host E L) (number : Nat)
    (freshId : String) (r : Http.Request) : Host E L × JobProgress :=
  let origin : Origin := .network ((r.header? "x-request-id").getD freshId) (r.method = "HEAD")
  let timeout := server.config.requestTimeout.nanos
  if timeout = 0 then (host, .answered origin.answerLate)
  else
    let deadline := some (host.now + timeout)
    match server.receive clients host r with
    | .respond response => (host, .answered (origin.send response))
    | .process request =>
      call clients server host number origin deadline server.service.runner request
    | .summarise => summarise host number origin deadline

/-- Breaks a job off. What a call has to give up may make this a panic. -/
def breakOff (clients : Clients E L) (host : Host E L) (job : Job) :
    Host E L × Option String :=
  match job.stage with
  | .calling call =>
    let (host, panic) := call.breakOff clients host
    (release job.origin host, panic)
  | .summarising _ =>
    ({ host with timing := { host.timing with worker := host.timing.worker.abandon job.number } },
      none)

/-- The time of a job is up. -/
def expire (clients : Clients E L) (host : Host E L) (job : Job) : Host E L × JobProgress :=
  match job.breakOff clients host with
  | (host, none) => (host, .answered job.origin.answerLate)
  | (host, some message) => (host, .answered (.panicked message))

/-- Whether the time of a job is up. -/
def isLate (job : Job) (host : Host E L) : Bool :=
  match job.deadline with
  | some time => time ≤ host.now
  | none => false

/-- Lets what a job waits for go on. -/
def goOn (clients : Clients E L) (server : Server) (host : Host E L) (job : Job) :
    Host E L × JobProgress :=
  match job.stage with
  | .calling call =>
    let (host, progress) := call.resume clients host
    ofCall server host job.number job.origin job.deadline progress
  | .summarising request =>
    let (timing, progress) := host.timing.resume job.number request
    ofSummary timing host job.number job.origin job.deadline progress

/-- Looks at a job. Over the network the time is checked first; otherwise what can still be
answered is. -/
def poll (clients : Clients E L) (server : Server) (host : Host E L) (job : Job) :
    Host E L × JobProgress :=
  match job.origin with
  | .network .. =>
    if job.isLate host then job.expire clients host else job.goOn clients server host
  | _ =>
    match job.goOn clients server host with
    | (host, .waits job) => if job.isLate host then job.expire clients host else (host, .waits job)
    | done => done

/-- The times at which a job should be looked at. -/
def wakes (job : Job) : List Nat :=
  job.deadline.toList ++
    match job.stage with
    | .calling call => call.wake.toList
    | .summarising _ => []

/-- Whether a job would get further if it were looked at, whatever the time. -/
def canResume (job : Job) (host : Host E L) : Bool :=
  match job.stage with
  | .calling _ => false
  | .summarising request => host.timing.canResume job.number request

end Job

end ProcessorHost
