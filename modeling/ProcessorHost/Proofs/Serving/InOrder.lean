import ProcessorHost.Proofs.Serving.Announced
import ProcessorHost.Proofs.Serving.Course

/-!
# Serving in order

A server goes through its states in order, lets process calls in only between the start of its last
service and the end of its first, is announced to be serving only when its processor is, which is
only when its instance has been registered, and stops every service once, whatever fails. All that
holds at every moment, whatever requests come in between and whenever the server is told to stop,
as long as nobody else sets the serving state or that health.
-/

namespace ProcessorHost

variable {α E L : Type}

namespace ServeMoment

variable {clients : Clients E L} {names : List String} {host : Host E L} {m : ServeMoment E L}

/-- How it ends when a server has listened. -/
structure Ended (clients : Clients E L) (server : Server) (m : ServeMoment E L)
    (result : Except Cause Unit) : Prop where
  state : m.host.serving.state = .stopped
  serverHealth : m.host.health clients Lifecycle.serverName ≠ .serving
  processorHealth : m.host.health clients server.service.identity.id ≠ .serving
  /-- Each service has been stopped once. -/
  stopped : m.history.stopping = server.serviceNames.reverse
  course :
    m.history.started = server.serviceNames ∧ m.passed = [.starting, .ready, .draining, .stopped] ∨
      m.history.started ≠ server.serviceNames ∧ (∃ e, result = .error e) ∧
        m.passed = [.starting, .stopped]

/-- What holds at every moment of a server that listens. -/
structure InOrder (clients : Clients E L) (server : Server) (address : Net.Endpoint)
    (m : ServeMoment E L) : Prop where
  current : m.passed.getLast? = some m.host.serving.state
  course : m.passed <+: [.starting, .ready, .draining, .stopped] ∨
    m.passed <+: [.starting, .stopped]
  admits : ∀ r request, server.receive clients m.host r = .process request →
    m.history.started = server.serviceNames ∧ m.history.stopping = []
  serving : m.host.health clients Lifecycle.serverName = .serving →
    m.host.health clients server.service.identity.id = .serving
  registered : m.host.health clients server.service.identity.id = .serving →
    server.service.register = true →
    (.operates (.register (server.service.registration address)), .ok ()) ∈ m.history
  stopping : m.history.stopping <+: server.serviceNames.reverse
  ended : ∀ result, m.plan = .done result → m.Ended clients server result

/-- Where nothing is left to be done nothing is done. -/
lemma Reaches.of_done {m' : ServeMoment E L} {result : Except Cause Unit}
    (hreach : Reaches clients names m m') (hplan : m.plan = .done result) :
    m'.plan = .done result ∧ m'.history = m.history := by
  induction hreach with
  | refl => exact ⟨hplan, rfl⟩
  | tail _ hstep ih =>
    cases hstep with
    | others hstanding => exact ih
    | acts hact houtcome =>
      rw [ih.1] at hact
      cases hact

/-- Who was not serving before is serving exactly if that is what was set last. -/
lemma Accounted.serving_iff (haccounted : Accounted clients names host m) {name : String}
    (hmem : name ∈ names) (hbefore : host.health clients name ≠ .serving) :
    m.host.health clients name = .serving ↔ ServeHistory.Serves name m.history := by
  rw [haccounted.health name hmem]
  unfold ServeHistory.Serves
  cases m.history.health? name with
  | none => simpa using hbefore
  | some status => simp

end ServeMoment

namespace Server

open ServeMoment

/-- The names under which the health of a server and its processor is kept. -/
def healthNames (server : Server) : List String :=
  [server.service.identity.id, Lifecycle.serverName]

variable {clients : Clients E L} {host : Host E L} (bind : Net.Endpoint) (config : NetworkConfig)
  (service : ProcessorService) (withHealth : Bool)

lemma inOrder_of_reaches (hlaw : clients.lifecycle.IsLawful)
    (hstate : host.serving.state = .starting)
    (hserver : host.health clients Lifecycle.serverName ≠ .serving)
    (hprocessor : host.health clients service.identity.id ≠ .serving) {address : Net.Endpoint}
    {m : ServeMoment E L}
    (hreach : Reaches clients (build bind config service withHealth).healthNames
      (.begin host ((build bind config service withHealth).plan (.ok address))) m) :
    m.InOrder clients (build bind config service withHealth) address := by
  have haccounted := hreach.accounted hlaw
  have hfollows := hreach.ensures (plan_follows (build bind config service withHealth) address)
  have htruthful := hreach.ensures (plan_truthful bind config service address withHealth)
  have hpassed := haccounted.passed
  rw [hstate] at hpassed
  have hserves := haccounted.serving_iff (List.mem_cons_of_mem _ List.mem_cons_self) hserver
  have hprocesses := haccounted.serving_iff List.mem_cons_self hprocessor
  refine ⟨haccounted.current, ?_, ?_, ?_, ?_, hfollows.now.stopped_initial, ?_⟩
  · rw [hpassed]
    exact hfollows.now.states_initial
  · intro r request hadmitted
    have hready : m.host.serving.state = .ready := ready_of_receive hadmitted
    have hcurrent := haccounted.current
    rw [hready, hpassed] at hcurrent
    exact hfollows.now.of_state_ready hcurrent
  · intro h
    exact hprocesses.mpr (htruthful.now.server (hserves.mp h))
  · intro h
    exact htruthful.now.processor (hprocesses.mp h)
  · intro result hplan
    rw [hplan] at hfollows htruthful
    obtain ⟨-, hcompletes⟩ := hfollows
    obtain ⟨-, hdown⟩ := htruthful
    obtain ⟨hstopped, hcourse⟩ := hcompletes.spec
    rw [← hpassed] at hcourse
    have hlast : m.passed.getLast? = some .stopped := by
      rcases hcourse with ⟨-, hall⟩ | ⟨-, -, hall⟩
      · rw [hall]
        rfl
      · rw [hall]
        rfl
    rw [haccounted.current] at hlast
    exact ⟨Option.some_inj.mp hlast, fun h => hdown.server (hserves.mp h),
      fun h => hdown.processor (hprocesses.mp h), hstopped, hcourse⟩

/-- For all servers, all lifecycles and all that happens between the deeds of serving: from a host
that is not serving yet, every moment of serving is in order if the server listens, and nothing is
done at all if it cannot. Tasks of the executor may come in between, if they do not report health
of their own, and to listen and serve is to go through such moments to the end. -/
theorem serves_in_order (hlaw : clients.lifecycle.IsLawful) (host : Host E L)
    (hstate : host.serving.state = .starting)
    (hserver : host.health clients Lifecycle.serverName ≠ .serving)
    (hprocessor : host.health clients service.identity.id ≠ .serving) :
    let server := build bind config service withHealth
    (server.serviceNames =
      ProcessorService.serviceName :: if withHealth then [HealthService.serviceName] else []) ∧
    (∀ address m, Reaches clients server.healthNames (.begin host (server.plan (.ok address))) m →
      m.InOrder clients server address) ∧
    (∀ refusal m,
      Reaches clients server.healthNames (.begin host (server.plan (.error refusal))) m →
        m.host.serving.state = .starting ∧ m.passed = [.starting] ∧ m.history = [] ∧
          m.plan = .done (.error (.of refusal.message))) ∧
    (service.runner.IsReserved server.healthNames →
      ∀ e : Executor E L, e.IsReserved server.healthNames →
        (∀ task,
          Host.SameStanding clients server.healthNames e.host (e.run clients server task).host) ∧
        ∀ machine fuel (attend : Executor E L → Executor E L × α), e.host = host →
          Executor.IsConsiderate clients server.healthNames (fun e => (attend e).1) →
          ∃ m, Reaches clients server.healthNames
              (.begin host (server.plan (server.listening machine))) m ∧
            m.plan = .done (e.listenAndServe machine clients server fuel attend).2.2 ∧
            m.host = (e.listenAndServe machine clients server fuel attend).1.host) := by
  intro server
  refine ⟨?_, ?_, ?_, ?_⟩
  · unfold server build serviceNames
    rw [ServerService.inOrder_registry]
    cases withHealth with
    | true => rfl
    | false => rfl
  · intro address m hreach
    exact inOrder_of_reaches bind config service withHealth hlaw hstate hserver hprocessor hreach
  · intro refusal m hreach
    obtain ⟨hplan, hhistory⟩ := hreach.of_done rfl
    have hpassed := (hreach.accounted hlaw).passed
    have hcurrent := (hreach.accounted hlaw).current
    rw [hhistory, hstate] at hpassed
    rw [hpassed] at hcurrent
    exact ⟨(Option.some_inj.mp hcurrent).symm, hpassed, hhistory, hplan⟩
  · intro hrunner e hreserved
    refine ⟨fun task => (Executor.run_undisturbed server hlaw hrunner hreserved task).standing, ?_⟩
    intro machine fuel attend hhost hattend
    have hrun := Executor.runOn_plan clients server fuel machine attend e
    obtain ⟨m, hreach, hplan, hend⟩ := Executor.runOn_reaches server hlaw hrunner fuel hattend
      hreserved (server.plan (server.listening machine)) [] [host.serving.state]
    rw [hrun] at hplan hend
    rw [hhost] at hreach
    exact ⟨m, hreach, hplan, hend⟩

end Server

namespace WordCount

lemma count_reportsOnly (allowed : Prop) (text : String) : (count text).ReportsOnly allowed := by
  unfold count
  intro reply
  cases reply with
  | watch number =>
    intro stopped dropped
    cases stopped with
    | _ => trivial
  | _ => trivial

/-- To count words no health has to be reported. -/
lemma processor_reportsOnly (allowed : Prop) (binding : ProcessorBinding) (event : Event)
    (params : Json.Members) : (processor.work binding event params).ReportsOnly allowed := by
  unfold processor
  dsimp only
  split
  · exact count_reportsOnly allowed _
  · trivial

end WordCount

namespace Server

/-- A server that counts words, and has to, until it is told to stop. -/
def countedOnce : Executor Unit Lifecycle :=
  ((⟨resting, [], [], []⟩ : Executor Unit Lifecycle).listenAndServe .isolated looseClients counting
    100 fun e => e.request looseClients counting 100 1 "r" processCall).1

theorem counting_serves_in_order :
    countedOnce.host.serving.state = .stopped ∧
      countedOnce.host.health looseClients Lifecycle.serverName ≠ .serving ∧
      countedOnce.host.health looseClients "counter" ≠ .serving := by
  have hlaw : looseClients.lifecycle.IsLawful := Lifecycle.client_isLawful
  have hrunner : counting.service.runner.IsReserved counting.healthNames :=
    fun event params => WordCount.processor_reportsOnly _ _ event params
  have hbuild : build counting.address counting.config counting.service true = counting := rfl
  have hserves := serves_in_order (α := Option Answer) counting.address counting.config
    counting.service true hlaw resting rfl (by decide) (by decide)
  dsimp only at hserves
  rw [hbuild] at hserves
  obtain ⟨-, hmoments, -, hserve⟩ := hserves
  have hreserved : (⟨resting, [], [], []⟩ : Executor Unit Lifecycle).IsReserved
      counting.healthNames := fun _ hmem => (List.not_mem_nil hmem).elim
  obtain ⟨-, hrun⟩ := hserve hrunner ⟨resting, [], [], []⟩ hreserved
  obtain ⟨m, hreach, hplan, hhost⟩ := hrun .isolated 100
    (fun e => e.request looseClients counting 100 1 "r" processCall) rfl
    fun e h => Executor.request_undisturbed counting hlaw hrunner 100 1 "r" processCall h
  have hended := (hmoments counting.address m hreach).ended _ hplan
  have hend : countedOnce.host = m.host := hhost.symm
  rw [hend]
  exact ⟨hended.state, hended.serverHealth, hended.processorHealth⟩

end Server

end ProcessorHost
