import ProcessorHost.Cause
import ProcessorHost.Json.Value

/-!
# Events and their leases

An event is opened before a processor works on it and closed afterwards. The store counts
the leases on each event; an event comes into being when it is first opened and is removed
when its last lease is given back.
-/

namespace ProcessorHost

/-- An event by its identifier, with text metadata in increasing order of the keys. -/
structure Event where
  id : String
  metadata : List (String × String)
deriving DecidableEq, Repr, Inhabited

namespace Event

/-- An event without metadata. -/
def bare (id : String) : Event := ⟨id, []⟩

end Event

/-- An event that is held, and the number of leases on it. -/
structure LeasedEvent where
  event : Event
  leases : Nat
deriving DecidableEq, Repr, Inhabited

/-- The events that are held, each under its identifier. Leases are counted without a bound: no
program takes the `2 ^ 64` leases on one event that a counter of 64 bits could not hold. -/
structure EventStore where
  held : List (String × LeasedEvent)
deriving DecidableEq, Repr, Inhabited

namespace EventStore

def empty : EventStore := ⟨[]⟩

/-- What is held under an identifier. -/
def find? (store : EventStore) (id : String) : Option LeasedEvent :=
  Keyed.find? id store.held

/-- Stores an event without leases, in the place of an earlier one. -/
def insert (store : EventStore) (event : Event) : EventStore :=
  ⟨Keyed.insert event.id ⟨event, 0⟩ store.held⟩

/-- The number of leases on an event; none if it is not held. -/
def leases (store : EventStore) (id : String) : Nat :=
  ((store.find? id).map (·.leases)).getD 0

/-- Takes a lease on an event, which is created if it is not held. -/
def lease (store : EventStore) (id : String) : Event × EventStore :=
  let entry := (store.find? id).getD ⟨.bare id, 0⟩
  (entry.event, ⟨Keyed.insert id { entry with leases := entry.leases + 1 } store.held⟩)

/-- What is said of an event that has no lease to give back. -/
def notOpen (id : String) : Cause := .of ("event " ++ id ++ " is not open")

/-- Gives a lease back; the event goes with its last lease. -/
def close (store : EventStore) (id : String) : Except Cause EventStore :=
  match store.find? id with
  | none => .error (notOpen id)
  | some entry =>
    match entry.leases with
    | 0 => .error (notOpen id)
    | 1 => .ok ⟨Keyed.erase id store.held⟩
    | n + 1 => .ok ⟨Keyed.insert id { entry with leases := n } store.held⟩

end EventStore

end ProcessorHost
