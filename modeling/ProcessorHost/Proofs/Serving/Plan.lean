import Mathlib.Tactic.Common
import ProcessorHost.Host.Serve
import ProcessorHost.Proofs.Serving.Admission

/-!
# The plan of a server

Serving is a plan: a tree of deeds, in which what came of a deed decides how to go on. To listen
and serve is to go through the plan of the server without a break, except that it waits until it is
told to stop, and for the end of the timing collector. Between two deeds of the plan other things
may happen, and that is what the plan is for.
-/

namespace ProcessorHost

variable {α β E L : Type}

/-- What is done in one go. -/
inductive ServeDeed
  | operates (op : ServiceOperation)
  | changes (call : ServingCall)
  /-- A service has started. -/
  | started (service : String)
  /-- A service is about to be stopped. -/
  | stops (service : String)
  /-- Waits until the server is told to stop. -/
  | attends
deriving DecidableEq, Repr

/-- Deeds one after the other. -/
inductive ServePlan (α : Type)
  | done (a : α)
  | act (deed : ServeDeed) (next : Except Cause Unit → ServePlan α)

namespace ServePlan

def andThen : ServePlan α → (α → ServePlan β) → ServePlan β
  | done a, f => f a
  | act deed next, f => act deed fun result => (next result).andThen f

/-- Does something first, and goes on whatever came of it. -/
def after (deed : ServeDeed) (plan : ServePlan α) : ServePlan α := act deed fun _ => plan

def noting (record : LogRecord) (plan : ServePlan α) : ServePlan α :=
  after (.operates (.note record)) plan

def untilFailure : List ServiceOperation → ServePlan (Except Cause Unit)
  | [] => done (.ok ())
  | op :: rest =>
    act (.operates op) fun
      | .error e => done (.error e)
      | .ok () => untilFailure rest

def throughout (failure : Option Cause) : List ServiceOperation → ServePlan (Except Cause Unit)
  | [] =>
    match failure with
    | none => done (.ok ())
    | some e => done (.error e)
  | op :: rest =>
    act (.operates op) fun
      | .error e => throughout (failure.or (some e)) rest
      | .ok () => throughout failure rest

def startAll (address : Net.Endpoint) :
    List (Hosted ServerService) → ServePlan (Except Cause Unit)
  | [] => done (.ok ())
  | h :: rest =>
    (untilFailure (h.service.starting address)).andThen fun
      | .error e => done (.error e)
      | .ok () => after (.started h.name) (startAll address rest)

def stopAll (terminate : Bool) (failure : Option Cause) :
    List (Hosted ServerService) → ServePlan (Except Cause Unit)
  | [] =>
    match failure with
    | none => done (.ok ())
    | some e => done (.error e)
  | h :: rest =>
    after (.stops h.name) <| (throughout none (h.service.stopping terminate)).andThen fun
      | .ok () => stopAll terminate failure rest
      | .error e =>
        noting (Registry.stopFailure h.name e) (stopAll terminate (failure.or (some e)) rest)

end ServePlan

namespace Server

open ServePlan

/-- Not every service has started. -/
def planOfFailure (server : Server) (failure : Cause) : ServePlan (Except Cause Unit) :=
  noting ⟨.warn, "service init failed; shutting down", [("error", .text failure.text)]⟩ <|
    (stopAll true none server.registry.inOrder.reverse).andThen fun _ =>
      after (.changes .setStopped) (done (.error failure))

/-- Every service has started. -/
def planOfServing (server : Server) (address : Net.Endpoint) : ServePlan (Except Cause Unit) :=
  after (.changes .setReady) <| noting ⟨.info, "serving", [("address", .text address.text)]⟩ <|
    after .attends <| after (.changes .triggerShutdown) <|
    noting ⟨.info, "shutdown signalled, draining in-flight requests", []⟩ <|
    after (.changes .triggerShutdown) <|
    (stopAll false none server.registry.inOrder.reverse).andThen fun result =>
      after (.changes .setStopped) <| noting ⟨.info, "server stopped", []⟩ (done result)

/-- The plan of a server that listens at an endpoint. -/
def planAt (server : Server) (address : Net.Endpoint) : ServePlan (Except Cause Unit) :=
  (startAll address server.registry.inOrder).andThen fun
    | .error failure => server.planOfFailure failure
    | .ok () => server.planOfServing address

/-- The plan of a server, for the endpoint at which it listens, if it does. -/
def plan (server : Server) : Except Net.ListenError Net.Endpoint → ServePlan (Except Cause Unit)
  | .error refusal => done (.error (.of refusal.message))
  | .ok address => noting (Executor.bound address) (server.planAt address)

/-- Where the server listens on a machine. -/
def listening (server : Server) (machine : Net.Machine) : Except Net.ListenError Net.Endpoint :=
  (machine.listen server.address).map (·.1)

end Server

namespace ServeDeed

/-- Does something, and waits for what has to be waited for. -/
def performOn (clients : Clients E L) (server : Server) (fuel : Nat)
    (attend : Executor E L → Executor E L) (e : Executor E L) :
    ServeDeed → Executor E L × Except Cause Unit
  | operates op => e.perform clients server fuel op
  | changes call => (e.setServing call.apply, .ok ())
  | started _ => (e, .ok ())
  | stops _ => (e, .ok ())
  | attends => (attend e, .ok ())

end ServeDeed

namespace ServePlan

variable (clients : Clients E L) (server : Server) (fuel : Nat)
  (attend : Executor E L → Executor E L)

/-- Goes through a plan without a break. -/
def runOn (e : Executor E L) : ServePlan α → Executor E L × α
  | done a => (e, a)
  | act deed next =>
    let (e, result) := deed.performOn clients server fuel attend e
    (next result).runOn e

lemma runOn_act (deed : ServeDeed) (next : Except Cause Unit → ServePlan α) (e : Executor E L) :
    (act deed next).runOn clients server fuel attend e =
      (next (deed.performOn clients server fuel attend e).2).runOn clients server fuel attend
        (deed.performOn clients server fuel attend e).1 := rfl

lemma runOn_andThen (plan : ServePlan α) (f : α → ServePlan β) (e : Executor E L) :
    (plan.andThen f).runOn clients server fuel attend e =
      (f (plan.runOn clients server fuel attend e).2).runOn clients server fuel attend
        (plan.runOn clients server fuel attend e).1 := by
  induction plan generalizing e with
  | done a => rfl
  | act deed next ih =>
    unfold andThen
    rw [runOn_act, runOn_act]
    exact ih _ _

lemma runOn_untilFailure (ops : List ServiceOperation) (e : Executor E L) :
    (untilFailure ops).runOn clients server fuel attend e =
      ServiceOperation.untilFailure (Executor.perform clients server fuel) e ops := by
  induction ops generalizing e with
  | nil => rfl
  | cons op rest ih =>
    unfold untilFailure ServiceOperation.untilFailure
    rw [runOn_act]
    change runOn clients server fuel attend (e.perform clients server fuel op).1
      (match (e.perform clients server fuel op).2 with
        | .error failure => done (.error failure)
        | .ok () => untilFailure rest) = _
    obtain ⟨after, result⟩ := e.perform clients server fuel op
    cases result with
    | error failure => rfl
    | ok _ => exact ih after

lemma runOn_throughout (ops : List ServiceOperation) (failure : Option Cause)
    (e : Executor E L) :
    (throughout failure ops).runOn clients server fuel attend e =
      ServiceOperation.throughout (Executor.perform clients server fuel) e failure ops := by
  induction ops generalizing e failure with
  | nil =>
    cases failure with
    | none => rfl
    | some cause => rfl
  | cons op rest ih =>
    unfold throughout ServiceOperation.throughout
    rw [runOn_act]
    change runOn clients server fuel attend (e.perform clients server fuel op).1
      (match (e.perform clients server fuel op).2 with
        | .error cause => throughout (failure.or (some cause)) rest
        | .ok () => throughout failure rest) = _
    obtain ⟨after, result⟩ := e.perform clients server fuel op
    cases result with
    | error cause => exact ih _ after
    | ok _ => exact ih _ after

lemma runOn_startAll (address : Net.Endpoint) (services : List (Hosted ServerService))
    (e : Executor E L) :
    (startAll address services).runOn clients server fuel attend e =
      Registry.startAll (fun e service => ServiceOperation.untilFailure
        (Executor.perform clients server fuel) e (service.starting address)) e services := by
  induction services generalizing e with
  | nil => rfl
  | cons h rest ih =>
    unfold startAll Registry.startAll
    rw [runOn_andThen, runOn_untilFailure]
    obtain ⟨after, result⟩ := ServiceOperation.untilFailure (Executor.perform clients server fuel) e
      (h.service.starting address)
    cases result with
    | error failure => rfl
    | ok _ => exact ih after

lemma runOn_stopAll (terminate : Bool) (services : List (Hosted ServerService))
    (failure : Option Cause) (e : Executor E L) :
    (stopAll terminate failure services).runOn clients server fuel attend e =
      Registry.stopAll (fun e service => ServiceOperation.throughout
          (Executor.perform clients server fuel) e none (service.stopping terminate))
        (fun e record => { e with host := e.host.note record }) e failure services := by
  induction services generalizing e failure with
  | nil =>
    cases failure with
    | none => rfl
    | some cause => rfl
  | cons h rest ih =>
    unfold stopAll Registry.stopAll
    change ((throughout none (h.service.stopping terminate)).andThen _).runOn clients server fuel
      attend e = _
    rw [runOn_andThen, runOn_throughout]
    obtain ⟨after, result⟩ := ServiceOperation.throughout (Executor.perform clients server fuel) e
      none (h.service.stopping terminate)
    cases result with
    | error cause => exact ih _ _
    | ok _ => exact ih _ after

end ServePlan

namespace Executor

variable (clients : Clients E L) (server : Server) (fuel : Nat)

open ServePlan

lemma runOn_planOfFailure (attend : Executor E L → Executor E L) (failure : Cause)
    (e : Executor E L) :
    (server.planOfFailure failure).runOn clients server fuel attend e =
      (e.giveUp clients server fuel failure, .error failure) := by
  unfold Server.planOfFailure giveUp
  change ((stopAll true none server.registry.inOrder.reverse).andThen _).runOn clients server fuel
    attend _ = _
  rw [runOn_andThen, runOn_stopAll]
  rfl

lemma runOn_planOfServing (attend : Executor E L → Executor E L) (address : Net.Endpoint)
    (e : Executor E L) :
    (server.planOfServing address).runOn clients server fuel attend e =
      (attend ((e.setServing .setReady).note
        ⟨.info, "serving", [("address", .text address.text)]⟩)).endServing clients server fuel := by
  unfold Server.planOfServing endServing wind
  change ((stopAll false none server.registry.inOrder.reverse).andThen _).runOn clients server fuel
    attend _ = _
  rw [runOn_andThen, runOn_stopAll]
  rfl

lemma runOn_planAt (attend : Executor E L → Executor E L × α) (address : Net.Endpoint)
    (e : Executor E L) :
    (server.planAt address).runOn clients server fuel (fun e => (attend e).1) e =
      ((e.serve clients server fuel address attend).1,
        (e.serve clients server fuel address attend).2.2) := by
  have hstart : (startAll address server.registry.inOrder).runOn clients server fuel
      (fun e => (attend e).1) e = e.initAll clients server fuel address :=
    runOn_startAll clients server fuel _ address _ e
  unfold Server.planAt serve beginServing
  rw [runOn_andThen, hstart]
  obtain ⟨after, result⟩ := e.initAll clients server fuel address
  cases result with
  | error failure => exact runOn_planOfFailure clients server fuel _ failure after
  | ok _ => exact runOn_planOfServing clients server fuel _ address after

/-- To listen and serve is to go through the plan. -/
theorem runOn_plan (machine : Net.Machine) (attend : Executor E L → Executor E L × α)
    (e : Executor E L) :
    (server.plan (server.listening machine)).runOn clients server fuel (fun e => (attend e).1) e =
      ((e.listenAndServe machine clients server fuel attend).1,
        (e.listenAndServe machine clients server fuel attend).2.2) := by
  unfold listenAndServe Server.listening
  cases machine.listen server.address with
  | error refusal => rfl
  | ok listening =>
    obtain ⟨address, machine⟩ := listening
    exact runOn_planAt clients server fuel attend address (e.note (bound address))

end Executor

end ProcessorHost
