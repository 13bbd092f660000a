import ProcessorHost.Cause
import ProcessorHost.Keyed
import ProcessorHost.Log

/-!
# Registry of hosted services

Services are known by name and by kind. They start in the order in which their names were
first registered and stop in the reverse order. A service of type `α` is whatever the
caller hosts; starting and stopping are functions of the caller's state.
-/

namespace ProcessorHost

/-- A service under its name; services of one kind share a kind number. -/
structure Hosted (α : Type) where
  name : String
  kind : Nat
  service : α
deriving DecidableEq, Repr

structure Registry (α : Type) where
  /-- The service last registered under each name. -/
  byName : List (String × Hosted α)
  /-- The service last registered of each kind. -/
  byKind : List (Nat × Hosted α)
  /-- Names in the order of their first registration. -/
  order : List String
deriving Repr

namespace Registry

variable {α σ : Type}

def empty : Registry α := ⟨[], [], []⟩

instance : Inhabited (Registry α) := ⟨empty⟩

def getByName? (r : Registry α) (name : String) : Option (Hosted α) :=
  Keyed.find? name r.byName

def getByKind? (r : Registry α) (kind : Nat) : Option (Hosted α) :=
  Keyed.find? kind r.byKind

/-- Registers a service, in the place of an earlier one with its name; the name keeps its
place in the order. -/
def register (r : Registry α) (h : Hosted α) : Registry α :=
  { byName := (h.name, h) :: Keyed.erase h.name r.byName
    byKind := (h.kind, h) :: Keyed.erase h.kind r.byKind
    order := if (r.getByName? h.name).isSome then r.order else r.order ++ [h.name] }

def size (r : Registry α) : Nat := r.byName.length

/-- The services in the order in which they start. -/
def inOrder (r : Registry α) : List (Hosted α) := r.order.filterMap r.getByName?

/-- Starts services one after the other, up to the first that fails. -/
def startAll (start : σ → α → σ × Except Cause Unit) (state : σ) :
    List (Hosted α) → σ × Except Cause Unit
  | [] => (state, .ok ())
  | h :: rest =>
    match start state h.service with
    | (state, .error e) => (state, .error e)
    | (state, .ok ()) => startAll start state rest

/-- What is reported of a service that failed to stop. -/
def stopFailure (name : String) (e : Cause) : LogRecord :=
  ⟨.error, "service shutdown failed", [("service", .text name), ("error", .text e.text)]⟩

/-- Stops every service, whatever fails, and returns the first failure. -/
def stopAll (stop : σ → α → σ × Except Cause Unit) (report : σ → LogRecord → σ) (state : σ)
    (failure : Option Cause) : List (Hosted α) → σ × Except Cause Unit
  | [] =>
    match failure with
    | none => (state, .ok ())
    | some e => (state, .error e)
  | h :: rest =>
    match stop state h.service with
    | (state, .ok ()) => stopAll stop report state failure rest
    | (state, .error e) =>
      stopAll stop report (report state (stopFailure h.name e)) (failure.or (some e)) rest

/-- Starts all services in order. -/
def initAll (r : Registry α) (start : σ → α → σ × Except Cause Unit) (state : σ) :
    σ × Except Cause Unit :=
  startAll start state r.inOrder

/-- Stops all services in reverse order. -/
def shutdownAll (r : Registry α) (stop : σ → α → σ × Except Cause Unit)
    (report : σ → LogRecord → σ) (state : σ) : σ × Except Cause Unit :=
  stopAll stop report state none r.inOrder.reverse

end Registry

end ProcessorHost
