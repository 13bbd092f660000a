import ProcessorHost.Cause

/-!
# Background workers

A worker owns a bounded queue and feeds its tasks, one at a time and in order, to a
`Runnable`. Between tasks it may tick at regular times. When it is stopped it closes the
queue, runs what is still queued, and shuts the runnable down once. What the worker may do
next is a `Move`; where several are possible any of them may come first. Times are in
nanoseconds.
-/

namespace ProcessorHost

/-- What is done with tasks. `σ` is what the runnable keeps from task to task. -/
structure Runnable (σ τ : Type) where
  /-- How long a task waits before it takes effect. -/
  duration : τ → Nat
  /-- The effect of a task; a panic leaves a state behind. -/
  run : σ → τ → Except σ σ
  tick : σ → Except σ σ
  shutdown : σ → Except σ σ

/-- What a worker is doing. -/
inductive WorkerPhase (τ : Type)
  /-- It has not begun. -/
  | created
  /-- It waits for a task, a tick or the order to stop. -/
  | waiting
  /-- It runs a task, which ends at a time, before or after the order to stop. -/
  | running (task : τ) (ends : Nat) (stopping : Bool)
  /-- It has seen the order to stop and runs what is left. -/
  | draining
  /-- It is done. -/
  | ended
  /-- A panic has ended it. -/
  | crashed
deriving DecidableEq, Repr

structure Worker (σ τ : Type) where
  capacity : Nat
  /-- The time between ticks. -/
  period : Option Nat
  state : σ
  phase : WorkerPhase τ
  /-- Accepted tasks, the oldest first. -/
  queue : List τ
  /-- Submitters that wait for room, the oldest first. -/
  waiting : List Nat
  /-- Submitters for which room is kept. -/
  granted : List Nat
  closed : Bool
  /-- Whether the worker was told to stop, or nobody is left who could. -/
  stopAsked : Bool
  /-- When the next tick is due. -/
  nextTick : Nat
deriving Repr

/-- Why a task is handed back. It comes back with the reason. -/
inductive SubmitError (τ : Type)
  | full (task : τ)
  | closed (task : τ)
deriving DecidableEq, Repr

/-- What the worker itself may do next. -/
inductive WorkerMove
  | setUp
  | take
  | finish
  | tick
  | stop
  | windUp
deriving DecidableEq, Repr

namespace Worker

/-- What is said when a task that waits for room can no longer be accepted. -/
def closedText : String := "worker channel closed"

variable {σ τ : Type}

/-- Queues are no longer than this. -/
def capacityLimit : Nat := 0x2000000000000000 - 1

/-- A worker that has not begun, or the text of the panic for a capacity that no queue has. -/
def start (capacity : Nat) (period : Option Nat) (state : σ) : Except String (Worker σ τ) :=
  if capacity = 0 then .error "mpsc bounded channel requires buffer > 0"
  else if capacityLimit < capacity then
    .error
      ("a semaphore may not have more than MAX_PERMITS permits (" ++ toString capacityLimit ++ ")")
  else
    .ok { capacity, period, state, phase := .created, queue := [], waiting := [], granted := [],
          closed := false, stopAsked := false, nextTick := 0 }

/-- The number of slots that are neither taken nor kept. -/
def room (w : Worker σ τ) : Nat := w.capacity - w.queue.length - w.granted.length

/-- Accepts a task without waiting, if there is room, or hands it back. -/
def trySubmit (w : Worker σ τ) (task : τ) : Except (SubmitError τ) (Worker σ τ) :=
  if w.closed then .error (.closed task)
  else if w.room = 0 then .error (.full task)
  else .ok { w with queue := w.queue ++ [task] }

/-- A slot has become free: it is kept for the oldest submitter that waits. -/
def release (w : Worker σ τ) : Worker σ τ :=
  match w.waiting with
  | [] => w
  | ticket :: rest => { w with waiting := rest, granted := w.granted ++ [ticket] }

/-- What becomes of a submission that may wait. -/
inductive Submission
  | accepted
  | waits
  | closed
deriving DecidableEq, Repr

/-- Accepts a task, or lets its submitter wait for room. -/
def submit (w : Worker σ τ) (ticket : Nat) (task : τ) : Worker σ τ × Submission :=
  if w.closed then (w, .closed)
  else if w.room = 0 then ({ w with waiting := w.waiting ++ [ticket] }, .waits)
  else ({ w with queue := w.queue ++ [task] }, .accepted)

/-- Forgets a submitter that waits or has room kept for it. -/
def abandon (w : Worker σ τ) (ticket : Nat) : Worker σ τ :=
  if ticket ∈ w.granted then { w with granted := w.granted.erase ticket }.release
  else { w with waiting := w.waiting.erase ticket }

/-- Lets a submitter that waited look again. Once the queue is closed it is refused, even
if room was kept for it. -/
def resume (w : Worker σ τ) (ticket : Nat) (task : τ) : Worker σ τ × Submission :=
  if w.closed then
    ({ w with waiting := w.waiting.erase ticket, granted := w.granted.erase ticket }, .closed)
  else if ticket ∈ w.granted then
    ({ w with granted := w.granted.erase ticket, queue := w.queue ++ [task] }, .accepted)
  else (w, .waits)

/-- Whether a submitter that waited would not go on waiting. -/
def canResume (w : Worker σ τ) (ticket : Nat) : Bool := w.closed || ticket ∈ w.granted

/-- Tells the worker to stop. -/
def askStop (w : Worker σ τ) : Worker σ τ := { w with stopAsked := true }

/-- Whether the worker is done, in whatever way. -/
def isOver (w : Worker σ τ) : Bool :=
  match w.phase with
  | .ended => true
  | .crashed => true
  | _ => false

/-- The worker after a panic: its queue is closed and what was in it is lost. -/
def crash (w : Worker σ τ) (state : σ) : Worker σ τ :=
  { w with state, phase := .crashed, closed := true, queue := [] }

/-- The worker after one of its own moves, if that move is possible. -/
def move? (r : Runnable σ τ) (now : Nat) (w : Worker σ τ) : WorkerMove → Option (Worker σ τ)
  | .setUp =>
    match w.phase with
    | .created =>
      match w.period with
      | some 0 => some (w.crash w.state)
      | some p => some { w with phase := .waiting, nextTick := now + p }
      | none => some { w with phase := .waiting }
    | _ => none
  | .take =>
    match w.phase, w.queue with
    | .waiting, task :: rest =>
      some { w with phase := .running task (now + r.duration task) false, queue := rest }.release
    | .draining, task :: rest =>
      some { w with phase := .running task (now + r.duration task) true, queue := rest }
    | _, _ => none
  | .finish =>
    match w.phase with
    | .running task ends stopping =>
      if ends ≤ now then
        match r.run w.state task with
        | .ok state => some { w with state, phase := if stopping then .draining else .waiting }
        | .error state => some (w.crash state)
      else none
    | _ => none
  | .tick =>
    match w.phase, w.period with
    | .waiting, some p =>
      if w.nextTick ≤ now then
        match r.tick w.state with
        | .ok state => some { w with state, nextTick := w.nextTick + p }
        | .error state => some (w.crash state)
      else none
    | _, _ => none
  | .stop =>
    match w.phase with
    | .waiting => if w.stopAsked then some { w with phase := .draining, closed := true } else none
    | _ => none
  | .windUp =>
    match w.phase, w.queue, w.granted with
    | .draining, [], [] =>
      match r.shutdown w.state with
      | .ok state => some { w with state, phase := .ended }
      | .error state => some (w.crash state)
    | _, _, _ => none

/-- The order in which a worker that runs by itself tries its moves. -/
def preference : List WorkerMove := [.setUp, .finish, .take, .tick, .stop, .windUp]

/-- The first possible move. -/
def next? (r : Runnable σ τ) (now : Nat) (w : Worker σ τ) : Option (Worker σ τ) :=
  preference.findSome? (w.move? r now)

/-- Makes moves as long as one is possible. -/
def runMoves (r : Runnable σ τ) (now : Nat) : Nat → Worker σ τ → Worker σ τ
  | 0, w => w
  | fuel + 1, w =>
    match w.next? r now with
    | none => w
    | some w => runMoves r now fuel w

/-- The number of ticks that are due. -/
def dueTicks (w : Worker σ τ) (now : Nat) : Nat :=
  match w.period with
  | none => 0
  | some p => (now + 1 - w.nextTick + p) / p

/-- At least the number of moves that are possible at a time. -/
def moveBound (w : Worker σ τ) (now : Nat) : Nat := 2 * w.queue.length + w.dueTicks now + 6

/-- Runs the worker until it has to wait. -/
def poll (r : Runnable σ τ) (now : Nat) (w : Worker σ τ) : Worker σ τ :=
  w.runMoves r now (w.moveBound now)

/-- The time at which a waiting worker can go on by itself. -/
def wake? (w : Worker σ τ) : Option Nat :=
  match w.phase with
  | .running _ ends _ => some ends
  | .waiting => w.period.map fun _ => w.nextTick
  | _ => none

/-- Lets time pass up to a moment, with the worker running whenever it can. -/
def passTime (r : Runnable σ τ) (later : Nat) : Nat → Nat × Worker σ τ → Worker σ τ
  | 0, (_, w) => w
  | fuel + 1, (now, w) =>
    let w := w.poll r now
    match w.wake? with
    | none => w.poll r later
    | some t => if t ≤ later then passTime r later fuel (max now t, w) else w

/-- At least the number of times a worker wakes up to a moment. -/
def wakeBound (w : Worker σ τ) (later : Nat) : Nat := w.queue.length + w.dueTicks later + 4

/-- The worker at a later moment, when nobody submits in between. -/
def advance (r : Runnable σ τ) (now later : Nat) (w : Worker σ τ) : Worker σ τ :=
  let w := w.poll r now
  passTime r later (w.wakeBound later) (now, w)

/-- Lets the worker run, and time pass when it waits, until a condition holds. -/
def runUntil (r : Runnable σ τ) (holds : Worker σ τ → Bool) :
    Nat → Nat → Worker σ τ → Nat × Worker σ τ
  | 0, now, w => (now, w)
  | fuel + 1, now, w =>
    let w := w.poll r now
    if holds w then (now, w)
    else
      match w.wake? with
      | none => (now, w)
      | some t => runUntil r holds fuel (max now t) w

end Worker

end ProcessorHost
