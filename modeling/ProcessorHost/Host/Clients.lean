import ProcessorHost.Event
import ProcessorHost.Lifecycle

/-!
# Clients of a host

A host leases events from one client and reports registrations and health to another. What
the clients keep is theirs: `E` and `L` are arbitrary, and so is whether a call succeeds.
-/

namespace ProcessorHost

/-- Leases and releases events. Opening may return another event than the one asked for. -/
structure EventsClient (E : Type) where
  openEvent : E → String → E × Except Cause Event
  closeEvent : E → String → E × Except Cause Unit

/-- Keeps registrations and the health of services by name. -/
structure LifecycleClient (L : Type) where
  register : L → Registration → L × List LogRecord × Except Cause Unit
  deregister : L → String → L × List LogRecord × Except Cause Unit
  setHealth : L → String → Health → L
  health : L → String → Health

structure Clients (E L : Type) where
  events : EventsClient E
  lifecycle : LifecycleClient L

namespace EventStore

/-- The store as a client. Opening never fails. -/
def client : EventsClient EventStore where
  openEvent store id :=
    let (event, store) := store.lease id
    (store, .ok event)
  closeEvent store id :=
    match store.close id with
    | .ok store => (store, .ok ())
    | .error e => (store, .error e)

end EventStore

namespace Lifecycle

/-- The registrations and health of this process as a client. -/
def client : LifecycleClient Lifecycle where
  register l r :=
    let (l, record) := l.register r
    (l, [record], .ok ())
  deregister l id :=
    match l.deregister id with
    | .ok (l, record) => (l, [record], .ok ())
    | .error e => (l, [], .error e)
  setHealth := setHealth
  health := healthOf

end Lifecycle

end ProcessorHost
