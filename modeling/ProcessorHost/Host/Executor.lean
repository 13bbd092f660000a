import ProcessorHost.Host.Job

/-!
# The executor

A host has one thread. What is ready runs in the order in which it became ready; when nothing
is, time jumps to the next timer. Each request over the network is a task. Besides the tasks
there is the foreground, which is looked at first when time has passed, and otherwise when
nothing else is ready. The executor only chooses an order: what each task does is said
elsewhere.
-/

namespace ProcessorHost

/-- Something that runs on its own. -/
inductive Activity
  /-- The worker of the timing collector. -/
  | timing
  /-- Giving back the lease of a broken-off call. -/
  | close
  | job (number : Nat)
deriving DecidableEq, Repr

/-- A request in the background. -/
inductive Background
  | arriving (freshId : String) (request : Http.Request)
  | begun (job : Job)
  | done (answer : Answer)

namespace Background

/-- Whether a request in the background would get further if it were looked at. -/
def canResume {E L : Type} (host : Host E L) : Background → Bool
  | .arriving .. => true
  | .begun job => job.canResume host
  | .done _ => false

end Background

structure Executor (E L : Type) where
  host : Host E L
  /-- The oldest first. -/
  ready : List Activity
  /-- In the order in which they were set; `none` stands for the foreground. -/
  timers : List (Nat × Option Activity)
  background : List (Nat × Background)

namespace Executor

variable {E L : Type}

def wake (e : Executor E L) (task : Activity) : Executor E L :=
  if task ∈ e.ready then e else { e with ready := e.ready ++ [task] }

/-- Wakes everything that can get further at this moment. -/
def wakeAll (e : Executor E L) : Executor E L :=
  let worker := e.host.timing.worker
  let e := if (worker.next? Ledger.runnable e.host.now).isSome then e.wake .timing else e
  let missing := e.host.orphans.length - e.ready.count Activity.close
  let e := { e with ready := e.ready ++ List.replicate missing Activity.close }
  e.background.foldl (fun e (number, b) =>
    if b.canResume e.host then e.wake (.job number) else e) e

/-- Sets the timers of a task, or of the foreground, to the given times. One that stays as it
was keeps its place; times that have come are left out. -/
def setTimers (e : Executor E L) (task : Option Activity) (times : List Nat) : Executor E L :=
  let kept := e.timers.filter fun (time, t) => t ≠ task || times.contains time
  let new := times.filter fun time => e.host.now < time && !kept.contains (time, task)
  { e with timers := kept ++ new.map fun time => (time, task) }

/-- Replaces a request in the background. -/
def setBackground (e : Executor E L) (number : Nat) (b : Background) : Executor E L :=
  { e with
    background := e.background.map fun entry => if entry.1 = number then (number, b) else entry }

def background? (e : Executor E L) (number : Nat) : Option Background :=
  (e.background.find? fun entry => entry.1 = number).map (·.2)

/-- Takes over what became of a job in the background. -/
def keep (e : Executor E L) (number : Nat) (outcome : Host E L × JobProgress) : Executor E L :=
  let e := { e with host := outcome.1 }
  match outcome.2 with
  | .waits job => (e.setBackground number (.begun job)).setTimers (some (.job number)) job.wakes
  | .answered answer => (e.setBackground number (.done answer)).setTimers (some (.job number)) []

/-- Runs a task until it waits. -/
def run (clients : Clients E L) (server : Server) (e : Executor E L) : Activity → Executor E L
  | .timing =>
    let e := { e with host := e.host.pollTiming }
    e.setTimers (some .timing) e.host.timing.worker.wake?.toList
  | .close => { e with host := e.host.closeOrphan clients }
  | .job number =>
    match e.background? number with
    | some (.arriving freshId request) =>
      e.keep number (Job.arrive clients server e.host number freshId request)
    | some (.begun job) => e.keep number (job.poll clients server e.host)
    | _ => e

/-- Runs what is ready, and what becomes ready by it, until nothing is. -/
def settle (clients : Clients E L) (server : Server) : Nat → Executor E L → Executor E L
  | 0, e => e
  | fuel + 1, e =>
    let e := e.wakeAll
    match e.ready with
    | [] => e
    | task :: rest =>
      let e := { e with ready := rest }
      settle clients server fuel (e.run clients server task)

/-- The time of the next timer. -/
def nextTime? (e : Executor E L) : Option Nat :=
  match e.timers with
  | [] => none
  | (time, _) :: rest => some (rest.foldl (fun t timer => min t timer.1) time)

/-- Lets time pass up to a timer; whether the foreground is due as well. -/
def jump (e : Executor E L) (time : Nat) : Executor E L × Bool :=
  let (due, later) := e.timers.partition fun timer => timer.1 ≤ time
  let e := { e with host := { e.host with now := max e.host.now time }, timers := later }
  (due.foldl (fun e timer => timer.2.elim e e.wake) e, due.any fun timer => timer.2.isNone)

/-- Has the foreground wait for one of the given times, or until it can get further. -/
def wait (clients : Clients E L) (server : Server) (times : List Nat)
    (holds : Host E L → List (Nat × Background) → Bool) : Nat → Executor E L → Executor E L
  | 0, e => e
  | fuel + 1, e =>
    let e := (e.setTimers none times).settle clients server fuel
    if holds e.host e.background then e.setTimers none []
    else
      match e.nextTime? with
      | none => e
      | some time =>
        match e.jump time with
        | (e, true) => e.setTimers none []
        | (e, false) => wait clients server times holds fuel e

/-- Has the foreground wait until a job has its answer. Without an answer the fuel was too
small, or the answer never comes. -/
def finish (clients : Clients E L) (server : Server) :
    Nat → Executor E L → JobProgress → Executor E L × Option Answer
  | _, e, .answered answer => (e, some answer)
  | 0, e, .waits _ => (e, none)
  | fuel + 1, e, .waits job =>
    let e := e.wait clients server job.wakes (fun host _ => job.canResume host) (fuel + 1)
    let (host, progress) := job.poll clients server e.host
    finish clients server fuel { e with host } progress

/-- Does a job in the foreground. -/
def foreground (clients : Clients E L) (server : Server) (fuel : Nat) (e : Executor E L)
    (begun : Host E L → Host E L × JobProgress) : Executor E L × Option Answer :=
  let (host, progress) := begun e.host
  finish clients server fuel { e with host } progress

/-- Lets time pass. -/
def sleep (clients : Clients E L) (server : Server) (fuel : Nat) (e : Executor E L) (nanos : Nat) :
    Executor E L :=
  let e := e.settle clients server fuel
  let e := if nanos = 0 then e
    else e.wait clients server [e.host.now + nanos] (fun _ _ => false) fuel
  e.settle clients server fuel

/-- A request in the background. -/
def spawn (e : Executor E L) (number : Nat) (freshId : String) (request : Http.Request) :
    Executor E L :=
  { e with background := e.background ++ [(number, .arriving freshId request)] }

/-- Has the foreground wait for a request in the background. -/
def join (clients : Clients E L) (server : Server) (fuel : Nat) (e : Executor E L) (number : Nat) :
    Executor E L × Option Answer :=
  let isDone (background : List (Nat × Background)) : Bool :=
    background.any fun entry =>
      match entry with
      | (n, .done _) => n = number
      | _ => false
  let e := e.wait clients server [] (fun _ background => isDone background) fuel
  match e.background? number with
  | some (.done answer) => (e, some answer)
  | _ => (e, none)

/-- A request over the network is always a task of its own; here the foreground waits for its
answer. -/
def request (clients : Clients E L) (server : Server) (fuel : Nat) (e : Executor E L) (number : Nat)
    (freshId : String) (request : Http.Request) : Executor E L × Option Answer :=
  let (e, answer) := (e.spawn number freshId request).join clients server fuel number
  ({ e with background := e.background.filter fun entry => entry.1 ≠ number }, answer)

/-- Breaks a request in the background off, unless it is done. -/
def abort (clients : Clients E L) (e : Executor E L) (number : Nat) : Executor E L :=
  match e.background? number with
  | some (.begun job) =>
    let (host, panic) := job.breakOff clients e.host
    let answer := match panic with
      | none => .cancelled
      | some message => .panicked message
    e.keep number (host, .answered answer)
  | some (.arriving ..) => e.keep number (e.host, .answered .cancelled)
  | _ => e

/-- Has the foreground wait until the timing worker has ended. -/
def awaitTiming (clients : Clients E L) (server : Server) (fuel : Nat) (e : Executor E L) :
    Executor E L :=
  e.wait clients server [] (fun host _ => host.timing.worker.isOver) fuel

end Executor

end ProcessorHost
