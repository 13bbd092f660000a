import Mathlib.Tactic.Common
import ProcessorHost.Proofs.Serving.Admission

/-!
# The registrations of a server that could not register

When the instance cannot be registered, its service does not start, and serving ends at once with
that failure. But what is registered under the identifier of the instance is withdrawn all the
same, as if the service had started: so the registrations are what they were before exactly if
the identifier was not in use.
-/

namespace ProcessorHost

variable {α β σ E : Type}

namespace ServiceOperation

/-- What stops goes through all its operations, whatever fails. -/
lemma throughout_fst {perform : σ → ServiceOperation → σ × Except Cause Unit} {f : σ → β}
    {g : β → ServiceOperation → β} (ops : List ServiceOperation)
    (h : ∀ state, ∀ op ∈ ops, f (perform state op).1 = g (f state) op) (state : σ)
    (failure : Option Cause) :
    f (throughout perform state failure ops).1 = ops.foldl g (f state) := by
  induction ops generalizing state failure with
  | nil =>
    unfold throughout
    split
    · rfl
    · rfl
  | cons op rest ih =>
    have hop := h state op List.mem_cons_self
    have hrest := ih fun state op hmem => h state op (List.mem_cons_of_mem _ hmem)
    unfold throughout
    rw [List.foldl_cons, ← hop]
    split
    · rename_i after e heq
      rw [heq]
      exact hrest after _
    · rename_i after heq
      rw [heq]
      exact hrest after _

end ServiceOperation

namespace Registry

/-- Every service is stopped, whatever fails. -/
lemma stopAll_fst {stop : σ → α → σ × Except Cause Unit} {report : σ → LogRecord → σ} {f : σ → β}
    {g : β → α → β} (hstop : ∀ state a, f (stop state a).1 = g (f state) a)
    (hreport : ∀ state record, f (report state record) = f state) (state : σ)
    (failure : Option Cause) (services : List (Hosted α)) :
    f (stopAll stop report state failure services).1 =
      (services.map (·.service)).foldl g (f state) := by
  induction services generalizing state failure with
  | nil =>
    unfold stopAll
    split
    · rfl
    · rfl
  | cons h rest ih =>
    have hservice := hstop state h.service
    unfold stopAll
    rw [List.map_cons, List.foldl_cons, ← hservice]
    split
    · rename_i after heq
      rw [heq]
      exact ih after _
    · rename_i after e heq
      rw [heq, ih, hreport]

end Registry

namespace Lifecycle

/-- The registrations and health of this process, with another way to register. -/
def registering
    (register : Lifecycle → Registration → Lifecycle × List LogRecord × Except Cause Unit) :
    LifecycleClient Lifecycle :=
  { client with register }

lemma registrations_deregister (l : Lifecycle) (id : String) :
    (client.deregister l id).1.registrations = Keyed.erase id l.registrations := by
  unfold client deregister
  dsimp only
  cases hfind : Keyed.find? id l.registrations with
  | none => exact ((Keyed.erase_eq_self_iff id _).mpr hfind).symm
  | some registration => rfl

/-- What an operation leaves of some registrations, if it does not register. -/
def withdraw (registrations : List (String × Registration)) :
    ServiceOperation → List (String × Registration)
  | .deregister id => Keyed.erase id registrations
  | _ => registrations

end Lifecycle

namespace ServerService

/-- What is left of some registrations when a service has stopped. -/
def withdraw (registrations : List (String × Registration)) :
    ServerService → List (String × Registration)
  | processor service =>
    if service.register then Keyed.erase service.uniqueServiceId registrations else registrations
  | health => registrations

lemma foldl_withdraw (s : ServerService) (registrations : List (String × Registration)) :
    (s.stopping true).foldl Lifecycle.withdraw registrations = withdraw registrations s := by
  cases s with
  | processor service =>
    cases hflag : service.register with
    | true => simp [stopping, ProcessorService.stopping, withdraw, hflag, Lifecycle.withdraw]
    | false => simp [stopping, ProcessorService.stopping, withdraw, hflag, Lifecycle.withdraw]
  | health => rfl

lemma mem_stopping {s : ServerService} {op : ServiceOperation} (h : op ∈ s.stopping true) :
    (∃ id, op = .deregister id) ∨ (∃ name status, op = .setHealth name status) ∨
      ∃ record, op = .note record := by
  cases s with
  | processor service =>
    unfold stopping ProcessorService.stopping at h
    cases hflag : service.register with
    | true =>
      simp [hflag] at h
      grind
    | false =>
      simp [hflag] at h
      grind
  | health =>
    rw [List.mem_singleton.mp h]
    exact .inr (.inl ⟨_, _, rfl⟩)

end ServerService

namespace Executor

variable (register : Lifecycle → Registration → Lifecycle × List LogRecord × Except Cause Unit)
  (events : EventsClient E) (server : Server) (fuel : Nat) {address : Net.Endpoint}
  {service : ProcessorService} {failure : Cause}

def registrations (e : Executor E Lifecycle) : List (String × Registration) :=
  e.host.lifecycle.registrations

/-- A service that stops because the process is about to end withdraws its registration, even
if it never started. -/
lemma registrations_stop (e : Executor E Lifecycle) (s : ServerService) :
    (ServiceOperation.throughout (perform ⟨events, Lifecycle.registering register⟩ server fuel) e
      none (s.stopping true)).1.registrations = s.withdraw e.registrations := by
  rw [← s.foldl_withdraw]
  apply ServiceOperation.throughout_fst (f := registrations)
  intro e op hmem
  rcases ServerService.mem_stopping hmem with ⟨id, rfl⟩ | ⟨name, status, rfl⟩ | ⟨record, rfl⟩
  · exact Lifecycle.registrations_deregister e.host.lifecycle id
  · rfl
  · rfl

lemma registrations_shutdownAll (e : Executor E Lifecycle) :
    (e.shutdownAll ⟨events, Lifecycle.registering register⟩ server fuel true).1.registrations =
      (server.registry.inOrder.reverse.map (·.service)).foldl ServerService.withdraw
        e.registrations := by
  apply Registry.stopAll_fst (f := registrations)
  · intro e s
    exact registrations_stop register events server fuel e s
  · intro e record
    rfl

lemma perform_register (e : Executor E Lifecycle) (r : Registration) :
    ∃ after : Executor E Lifecycle, perform ⟨events, Lifecycle.registering register⟩ server fuel e
        (.register r) = (after, (register e.host.lifecycle r).2.2) ∧
      after.host.lifecycle = (register e.host.lifecycle r).1 := ⟨_, rfl, rfl⟩

/-- The first thing that starting does is to register the instance. -/
lemma initAll_refused {e : Executor E Lifecycle} (hflag : service.register = true)
    (hrefused : (register e.host.lifecycle (service.registration address)).2.2 = .error failure)
    (config : NetworkConfig) (withHealth : Bool) (bind : Net.Endpoint) :
    ∃ after : Executor E Lifecycle, e.initAll ⟨events, Lifecycle.registering register⟩
        (.build bind config service withHealth) fuel address = (after, .error failure) ∧
      after.host.lifecycle = (register e.host.lifecycle (service.registration address)).1 := by
  obtain ⟨after, hregister, hlifecycle⟩ := perform_register register events
    (.build bind config service withHealth) fuel e (service.registration address)
  rw [hrefused] at hregister
  have hstarting : service.starting address = .register (service.registration address) ::
      [.setHealth service.identity.id .serving,
        .note ⟨.info, "processor service started",
          [("processor", .text service.identity.id), ("address", .text address.text)]⟩] := by
    unfold ProcessorService.starting
    rw [if_pos hflag]
    rfl
  refine ⟨after, ?_, hlifecycle⟩
  unfold initAll Registry.initAll
  change Registry.startAll _ e (ServerService.registry service withHealth).inOrder = _
  rw [ServerService.inOrder_registry]
  unfold Registry.startAll
  simp only [ServerService.hosted, ServerService.starting, hstarting,
    ServiceOperation.untilFailure, hregister]

/-- Serving ends when the instance cannot be registered, and withdraws what is registered under
its identifier. -/
lemma serve_refused {e : Executor E Lifecycle} (hflag : service.register = true)
    (hrefused : (register e.host.lifecycle (service.registration address)).2.2 = .error failure)
    (hkept : (register e.host.lifecycle (service.registration address)).1.registrations =
      e.registrations) (config : NetworkConfig) (withHealth : Bool) (bind : Net.Endpoint)
    (attend : Executor E Lifecycle → Executor E Lifecycle × α) :
    (e.serve ⟨events, Lifecycle.registering register⟩ (.build bind config service withHealth) fuel
        address attend).1.registrations =
      Keyed.erase service.uniqueServiceId e.registrations ∧
    (e.serve ⟨events, Lifecycle.registering register⟩ (.build bind config service withHealth) fuel
        address attend).2.2 = .error failure := by
  obtain ⟨after, hinit, hlifecycle⟩ :=
    initAll_refused register events fuel hflag hrefused config withHealth bind
  unfold serve beginServing
  rw [hinit]
  refine ⟨?_, rfl⟩
  have hstop := registrations_shutdownAll register events (.build bind config service withHealth)
    fuel (after.note ⟨.warn, "service init failed; shutting down", [("error", .text failure.text)]⟩)
  have hservices : ((Server.build bind config service withHealth).registry.inOrder.reverse.map
      (·.service)).foldl ServerService.withdraw after.registrations =
        Keyed.erase service.uniqueServiceId after.registrations := by
    change ((ServerService.registry service withHealth).inOrder.reverse.map
      (·.service)).foldl ServerService.withdraw after.registrations = _
    rw [ServerService.inOrder_registry]
    cases withHealth with
    | true => simp [ServerService.hosted, ServerService.withdraw, hflag]
    | false => simp [ServerService.hosted, ServerService.withdraw, hflag]
  have hafter : after.registrations = e.registrations := by
    unfold registrations at hkept ⊢
    rw [hlifecycle, hkept]
  rw [← hafter, ← hservices]
  exact hstop

/-- For all registrations, all servers that are to be registered and all ways in which registering
fails without touching the registrations: serving fails, and leaves the registrations as they were
exactly if none of them was under the identifier of the instance. One that was is withdrawn. -/
theorem registrations_kept_iff {e : Executor E Lifecycle} (hflag : service.register = true)
    (hrefused : (register e.host.lifecycle (service.registration address)).2.2 = .error failure)
    (hkept : (register e.host.lifecycle (service.registration address)).1.registrations =
      e.registrations) (config : NetworkConfig) (withHealth : Bool) (bind : Net.Endpoint)
    (attend : Executor E Lifecycle → Executor E Lifecycle × α) :
    let served := e.serve ⟨events, Lifecycle.registering register⟩
      (.build bind config service withHealth) fuel address attend
    served.2.2 = .error failure ∧
    served.1.registrations = Keyed.erase service.uniqueServiceId e.registrations ∧
    (served.1.registrations = e.registrations ↔
      Keyed.find? service.uniqueServiceId e.registrations = none) := by
  intro served
  obtain ⟨hleft, hfailure⟩ := serve_refused register events fuel hflag hrefused hkept config
    withHealth bind attend
  refine ⟨hfailure, hleft, ?_⟩
  rw [← Keyed.erase_eq_self_iff, ← hleft]

/-- Another instance, registered under an identifier of its own choice. -/
def rival (id : String) : Registration := ⟨"rival", id, "10.0.0.1:80", []⟩

/-- A host where another instance is registered already. -/
def beside (id : String) : Executor Unit Lifecycle :=
  ⟨{ Server.resting with lifecycle := ⟨[], [(id, rival id)]⟩ }, [], [], []⟩

/-- A way to register that always fails. -/
def unreachable (l : Lifecycle) (_ : Registration) :
    Lifecycle × List LogRecord × Except Cause Unit :=
  (l, [], .error (.of "no discovery"))

/-- A server that cannot be registered as `one` has served. -/
def servedUnregistered (id : String) : Executor Unit Lifecycle :=
  ((beside id).serve ⟨Server.looseClients.events, Lifecycle.registering unreachable⟩ Server.counting
    0 Server.counting.address fun e => (e, ())).1

/-- An instance that is registered as `two` stays. -/
theorem registrations_kept_beside_two :
    (servedUnregistered "two").registrations = [("two", rival "two")] :=
  (registrations_kept_iff unreachable Server.looseClients.events 0 (e := beside "two") rfl rfl rfl
    Server.counting.config true Server.counting.address fun e => (e, ())).2.2.mpr (by decide)

/-- An instance that was registered as `one` is withdrawn. -/
theorem not_registrations_kept_beside_one :
    Server.counting.service.register = true ∧
    (∀ r, unreachable (beside "one").host.lifecycle r =
      ((beside "one").host.lifecycle, [], .error (.of "no discovery"))) ∧
    (beside "one").registrations = [("one", rival "one")] ∧
    (servedUnregistered "one").registrations = [] := by
  refine ⟨rfl, ?_, rfl, ?_⟩
  · intro r
    rfl
  · decide +kernel

end Executor

end ProcessorHost
