import ProcessorHost.Cause
import ProcessorHost.Json.Value
import ProcessorHost.Log

/-!
# Health and registrations

The lifecycle keeps the health of each named service and the registrations under which
running services can be found. The server as a whole has the empty name.
-/

namespace ProcessorHost

inductive Health
  | unknown
  | serving
  | notServing
deriving DecidableEq, Repr, Inhabited

namespace Health

def name : Health → String
  | unknown => "unknown"
  | serving => "serving"
  | notServing => "not_serving"

/-- The names of all states of health. -/
def names : List String := [unknown.name, serving.name, notServing.name]

def ofName? (s : String) : Option Health :=
  if s = unknown.name then some unknown
  else if s = serving.name then some serving
  else if s = notServing.name then some notServing
  else none

/-- The state as a capitalised word. -/
def title : Health → String
  | unknown => "Unknown"
  | serving => "Serving"
  | notServing => "NotServing"

end Health

/-- What is announced of a running service. -/
structure Registration where
  serviceName : String
  /-- Unique to the running instance. -/
  uniqueServiceId : String
  /-- Host and port at which the instance is reached. -/
  address : String
  tags : List String
deriving DecidableEq, Repr, Inhabited

structure Lifecycle where
  health : List (String × Health)
  /-- Under their unique identifiers. -/
  registrations : List (String × Registration)
deriving DecidableEq, Repr, Inhabited

namespace Lifecycle

def empty : Lifecycle := ⟨[], []⟩

/-- The name under which the health of the whole server is kept. -/
def serverName : String := ""

/-- The tag of every processor's registration. -/
def processorTag : String := "v1-docproc-processor"

/-- Announces a service, in the place of an earlier one with its identifier. -/
def register (l : Lifecycle) (r : Registration) : Lifecycle × LogRecord :=
  ({ l with registrations := Keyed.insert r.uniqueServiceId r l.registrations },
    ⟨.info, "service registered",
      [("service", .text r.serviceName), ("id", .text r.uniqueServiceId),
        ("address", .text r.address)]⟩)

/-- Withdraws the registration with an identifier. -/
def deregister (l : Lifecycle) (id : String) : Except Cause (Lifecycle × LogRecord) :=
  match Keyed.find? id l.registrations with
  | none => .error (.of ("no service registered with id " ++ id))
  | some _ =>
    .ok ({ l with registrations := Keyed.erase id l.registrations },
      ⟨.info, "service deregistered", [("id", .text id)]⟩)

def setHealth (l : Lifecycle) (service : String) (status : Health) : Lifecycle :=
  { l with health := Keyed.insert service status l.health }

/-- The health of a service; unknown if it was never set. -/
def healthOf (l : Lifecycle) (service : String) : Health :=
  (Keyed.find? service l.health).getD .unknown

end Lifecycle

end ProcessorHost
