import ProcessorHost.Log
import ProcessorHost.Session.Scope
import ProcessorHost.Session.Stopwatch

/-!
# Sessions

A session is a set of scopes with their clocks, the guards that are held, and the
stopwatches in use. Every change is an `Action` with a `Reply`. A guard can be given up in
three ways: by an exit, which is refused unless its context is the innermost one; by a
release, which removes its context from anywhere but is a fault out of order; and by being
forgotten, which leaves the context entered.
-/

namespace ProcessorHost

/-- A sample on its way to a sink, and the scope it comes from. -/
structure Delivery where
  sink : Nat
  scope : Nat
  sample : TimingSample
deriving DecidableEq, Repr

structure Session where
  clocks : Clocks
  /-- The time of day. -/
  today : Timestamp
  /-- Scopes are known by their position. -/
  scopes : List Scope
  /-- Stopwatches are known by their position; one that was given up leaves a gap. -/
  watches : List (Option Stopwatch)
  /-- The guard that was handed out last first. -/
  held : List Guard
  /-- What was sent to the sinks, in order. -/
  deliveries : List Delivery
  log : List LogRecord
deriving Repr, Inhabited

/-- How a new stopwatch is set up. -/
inductive WatchSource
  /-- Without a scope. -/
  | free (clock : ClockSource)
  | attached (scope : Nat)
deriving DecidableEq, Repr

/-- What a processor can do with its scopes, guards and stopwatches. -/
inductive Action
  | openScope (clock : ClockSource) (sink : Option Nat)
  | advance (amount : Span)
  | enter (scope : Nat) (label : String)
  | exit (scope : Nat) (guard : Guard)
  | release (guard : Guard)
  /-- Releases a guard while a panic is already under way. -/
  | releaseUnwinding (guard : Guard)
  | forget (guard : Guard)
  | newWatch (label : String) (source : WatchSource) (started : Bool)
  | start (watch : Nat)
  | stop (watch : Nat)
  | reset (watch : Nat)
  | dropWatch (watch : Nat)
deriving Repr

inductive Reply
  | done
  /-- There is no such scope, guard or stopwatch. -/
  | missing
  | scope (id : Nat)
  | entered (guard : Guard)
  | exited (context : Context)
  | refused (error : UsageError)
  | watch (id : Nat)
  | interval (length : Span)
  | panicked (message : String)
deriving DecidableEq, Repr

namespace Session

/-- The text of the panic when a guard is released out of order. -/
def releaseText (label active : String) : String :=
  "context `" ++ label ++ "` released while `" ++ active ++ "` is the active context"

def fresh : Session :=
  { clocks := ⟨0, 0⟩, today := .epoch, scopes := [], watches := [], held := [],
    deliveries := [], log := [] }

def scope? (s : Session) (id : Nat) : Option Scope := s.scopes[id]?

def watch? (s : Session) (id : Nat) : Option Stopwatch := (s.watches[id]?).join

def setScope (s : Session) (id : Nat) (scope : Scope) : Session :=
  { s with scopes := s.scopes.set id scope }

def setWatch (s : Session) (id : Nat) (watch : Option Stopwatch) : Session :=
  { s with watches := s.watches.set id watch }

/-- Files an interval under the innermost context of a scope; without one it is lost. -/
def record (s : Session) (id : Nat) (stopwatch : String) (interval : Span) : Session :=
  match s.scope? id with
  | none => s
  | some scope =>
    match scope.current? with
    | none => s
    | some context =>
      let sample : TimingSample := ⟨⟨context.label, stopwatch⟩, interval, s.today⟩
      let s := s.setScope id { scope with samples := scope.samples ++ [sample] }
      match scope.sink with
      | none => s
      | some sink => { s with deliveries := s.deliveries ++ [⟨sink, id, sample⟩] }

def enter (s : Session) (id : Nat) (label : String) : Session × Reply :=
  match s.scope? id with
  | none => (s, .missing)
  | some scope =>
    let (number, scope) := scope.enter label (s.clocks.read scope.clock)
    let guard : Guard := ⟨id, number, label⟩
    ({ s.setScope id scope with held := guard :: s.held }, .entered guard)

def exit (s : Session) (id : Nat) (guard : Guard) : Session × Reply :=
  match s.scope? id with
  | none => (s, .missing)
  | some scope =>
    if guard ∈ s.held then
      match scope.frames with
      | top :: rest =>
        if guard.scope = id ∧ top.id = guard.id then
          ({ s.setScope id { scope with frames := rest } with held := s.held.erase guard },
            .exited top.context)
        else (s, .refused (.outOfOrderExit guard.label scope.activeLabel))
      | [] => (s, .refused (.outOfOrderExit guard.label scope.activeLabel))
    else (s, .missing)

/-- Releases a guard. Out of order this is a panic, unless one is under way. -/
def release (s : Session) (guard : Guard) (unwinding : Bool) : Session × Reply :=
  match s.scope? guard.scope with
  | none => (s, .missing)
  | some scope =>
    if guard ∈ s.held then
      let after := { s.setScope guard.scope (scope.remove guard.id) with
        held := s.held.erase guard }
      if scope.isInnermost guard.id || unwinding then (after, .done)
      else
        ({ after with
            log := after.log ++ [⟨.error, "context released out of order",
              [("label", .text guard.label), ("active", .text scope.activeLabel)]⟩] },
          .panicked (releaseText guard.label scope.activeLabel))
    else (s, .missing)

def newWatch (s : Session) (label : String) (source : WatchSource) (started : Bool) :
    Session × Reply :=
  let add (clock : ClockSource) (scope : Option Nat) : Session × Reply :=
    let watch := Stopwatch.unstarted label clock scope
    let watch := if started then watch.restart (s.clocks.read clock) else watch
    ({ s with watches := s.watches ++ [some watch] }, .watch s.watches.length)
  match source with
  | .free clock => add clock none
  | .attached id =>
    match s.scope? id with
    | none => (s, .missing)
    | some scope => add scope.clock (some id)

def start (s : Session) (id : Nat) : Session × Reply :=
  match s.watch? id with
  | none => (s, .missing)
  | some watch =>
    match watch.start (s.clocks.read watch.clock) with
    | .ok watch => (s.setWatch id (some watch), .done)
    | .error e => (s, .refused e)

def stop (s : Session) (id : Nat) : Session × Reply :=
  match s.watch? id with
  | none => (s, .missing)
  | some watch =>
    match watch.stop (s.clocks.read watch.clock) with
    | .refused e => (s, .refused e)
    | .overflow watch => (s.setWatch id (some watch), .panicked Span.overflowText)
    | .stopped watch' interval =>
      let s := s.setWatch id (some watch')
      match watch.scope with
      | none => (s, .interval interval)
      | some scope => (s.record scope watch.label interval, .interval interval)

/-- Performs one action. -/
def perform (s : Session) : Action → Session × Reply
  | .openScope clock sink =>
    ({ s with scopes := s.scopes ++ [.fresh clock sink] }, .scope s.scopes.length)
  | .advance amount => ({ s with clocks := s.clocks.advance amount }, .done)
  | .enter scope label => s.enter scope label
  | .exit scope guard => s.exit scope guard
  | .release guard => s.release guard false
  | .releaseUnwinding guard => s.release guard true
  | .forget guard =>
    if guard ∈ s.held then ({ s with held := s.held.erase guard }, .done) else (s, .missing)
  | .newWatch label source started => s.newWatch label source started
  | .start watch => s.start watch
  | .stop watch => s.stop watch
  | .reset watch =>
    match s.watch? watch with
    | none => (s, .missing)
    | some w => (s.setWatch watch (some w.reset), .done)
  | .dropWatch watch =>
    match s.watch? watch with
    | none => (s, .missing)
    | some _ => (s.setWatch watch none, .done)

/-- Releases guards one after the other. After the first panic the others are released
while it unwinds; its text is returned. -/
def releaseAll (s : Session) (panic : Option String) : List Guard → Session × Option String
  | [] => (s, panic)
  | guard :: rest =>
    match s.release guard panic.isSome with
    | (s, .panicked message) => s.releaseAll (some message) rest
    | (s, _) => s.releaseAll panic rest

/-- Releases every guard that is held, the one handed out last first. -/
def releaseHeld (s : Session) (panic : Option String) : Session × Option String :=
  s.releaseAll panic s.held

end Session

end ProcessorHost
