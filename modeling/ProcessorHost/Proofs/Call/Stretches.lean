import Mathlib.Logic.Relation
import ProcessorHost.Call.Call
import ProcessorHost.Proofs.Session.Forgotten

/-!
# Calls stretch by stretch

A call that begins is looked at again and again, each time in whatever has become of the host
meanwhile. In each stretch the processor works until it stops, and then the call waits or ends. All
that happens in the session of a call are the actions of its processor and the time that passes
between the stretches; so the session is that of a run, in which the call's own context is the first
and nobody holds its guard.
-/

namespace ProcessorHost

variable {σ α E L : Type}

namespace Behaviour

/-- What a behaviour does in its session until it stops. -/
def actions (env : Surroundings σ) (state : σ) (session : Session) : Behaviour α → List Action
  | act action next =>
    let (after, reply) := session.perform action
    let state := env.passOn state session.deliveries.length session.log.length after
    action :: (next reply).actions env state after
  | look next => (next session).actions env state session
  | report status next => next.actions env (env.setHealth state status) session
  | health next => (next (env.health state)).actions env state session
  | sleep 0 next => next.actions env state session
  | _ => []

lemma session_run (env : Surroundings σ) (state : σ) (session : Session) (behaviour : Behaviour α) :
    (behaviour.run env state session).2.1 =
      session.undergoAll ((behaviour.actions env state session).map .act) := by
  induction behaviour generalizing state session with
  | returns a => rfl
  | panics message => rfl
  | act action next ih => exact ih _ _ _
  | look next ih => exact ih _ _ _
  | report status next ih => exact ih _ _
  | health next ih => exact ih _ _ _
  | sleep ms next ih =>
    cases ms with
    | zero => exact ih _ _
    | succ ms => rfl
  | pend => rfl

end Behaviour

namespace Call

variable {clients : Clients E L} {host host' : Host E L} {call call' first : Call}
  {behaviour : Behaviour (Except Cause Json.Members)} {os : List Occurrence}

/-- A call at the moment when its processor has stopped. -/
structure Stop (E L : Type) where
  host : Host E L
  call : Call
  halt : Halt (Except Cause Json.Members)

/-- Has the processor work until it stops. -/
def work (clients : Clients E L) (host : Host E L) (call : Call)
    (behaviour : Behaviour (Except Cause Json.Members)) : Stop E L :=
  let (host, session, halt) := behaviour.run (call.surroundings clients) host
    { call.session with clocks := host.clocks, today := host.today }
  ⟨{ host with clocks := session.clocks }, { call with session }, halt⟩

namespace Stop

/-- The call as it waits for its processor to go on. -/
def later (stop : Stop E L) (ms : Nat) (rest : Behaviour (Except Cause Json.Members)) : Call :=
  { stop.call with rest, wake := some (stop.host.now + ms * 1000000) }

/-- What becomes of the call. -/
def finish (clients : Clients E L) (stop : Stop E L) : Host E L × CallProgress :=
  match stop.halt with
  | .returned result => stop.call.returned clients stop.host result
  | .panicked message =>
    let (host, call, _) := stop.call.releaseAll clients stop.host (some message)
    call.panics host message
  | .sleeping ms rest => (stop.host, .waits (stop.later ms rest))
  | .pending => (stop.host, .waits { stop.call with rest := .pend, wake := none })

end Stop

lemma goOn_eq (clients : Clients E L) (host : Host E L) (call : Call)
    (behaviour : Behaviour (Except Cause Json.Members)) :
    call.goOn clients host behaviour = (call.work clients host behaviour).finish clients := by
  unfold goOn work Stop.finish
  dsimp only
  rcases behaviour.run (call.surroundings clients) host
    { call.session with clocks := host.clocks, today := host.today } with ⟨host₁, session, halt⟩
  cases halt with
  | _ => rfl

/-- What happens in the session in one stretch. -/
def stretch (clients : Clients E L) (host : Host E L) (call : Call)
    (behaviour : Behaviour (Except Cause Json.Members)) : List Occurrence :=
  .pass host.clocks host.today :: (behaviour.actions (call.surroundings clients) host
    { call.session with clocks := host.clocks, today := host.today }).map .act

/-- The processor of a call that begins in a host may be found to stop like this after one or more
stretches, before each of which anything may have happened to the host. The list is of what has
happened in the session. -/
inductive Works (clients : Clients E L) (host : Host E L) (call : Call)
    (behaviour : Behaviour (Except Cause Json.Members)) : List Occurrence → Stop E L → Prop
  | begins : Works clients host call behaviour (call.stretch clients host behaviour)
      (call.work clients host behaviour)
  | goesOn {os : List Occurrence} {stop : Stop E L} {ms : Nat}
      {rest : Behaviour (Except Cause Json.Members)}
      (h : Works clients host call behaviour os stop) (hhalt : stop.halt = .sleeping ms rest)
      (now : Host E L) :
      Works clients host call behaviour (os ++ (stop.later ms rest).stretch clients now rest)
        ((stop.later ms rest).work clients now rest)

/-- A call is looked at, in whatever has become of the host. -/
inductive Looks (clients : Clients E L) : Host E L × CallProgress → Host E L × CallProgress → Prop
  | looks (host : Host E L) (call : Call) (now : Host E L) :
      Looks clients (host, .waits call) (call.resume clients now)

lemma panics_ended (host : Host E L) (call : Call) (message : String) :
    ∃ session outcome, (call.panics host message).2 = .ended session outcome := ⟨_, _, rfl⟩

lemma returned_ended (clients : Clients E L) (host : Host E L) (call : Call)
    (result : Except Cause Json.Members) :
    ∃ session outcome, (call.returned clients host result).2 = .ended session outcome := by
  unfold returned
  split
  · exact panics_ended _ _ _
  · split
    · exact panics_ended _ _ _
    · split
      · exact panics_ended _ _ _
      · exact ⟨_, _, rfl⟩

/-- A call that is looked at when its time has come goes on to the next stop of its processor. -/
lemma resume_later (stop : Stop E L) {ms : Nat} {now : Host E L}
    (rest : Behaviour (Except Cause Json.Members))
    (htime : stop.host.now + ms * 1000000 ≤ now.now) : (stop.later ms rest).resume clients now =
      ((stop.later ms rest).work clients now rest).finish clients := by
  rw [← goOn_eq]
  exact if_pos htime

/-- However often a call is looked at: its processor has stopped somewhere, and if the call has
ended this is what became of it then. -/
lemma exists_stop {come : Host E L × CallProgress}
    (h : Relation.ReflTransGen (Looks clients) (call.goOn clients host behaviour) come) :
    ∃ os stop, Works clients host call behaviour os stop ∧ (stop.finish clients).2 = come.2 ∧
      ∀ session outcome, come.2 = .ended session outcome → stop.finish clients = come := by
  induction h with
  | refl =>
    rw [goOn_eq]
    exact ⟨_, _, .begins, rfl, fun _ _ _ => rfl⟩
  | tail _ hlooks ih =>
    cases hlooks with
    | looks host₁ call₁ now =>
      obtain ⟨os, stop, hworks, hfinish, -⟩ := ih
      have hstays (hsame : call₁.resume clients now = (now, .waits call₁)) :
          ∃ os stop, Works clients host call behaviour os stop ∧
            (stop.finish clients).2 = (call₁.resume clients now).2 ∧ ∀ session outcome,
              (call₁.resume clients now).2 = .ended session outcome →
                stop.finish clients = call₁.resume clients now := by
        rw [hsame]
        exact ⟨os, stop, hworks, hfinish, nofun⟩
      -- A call that waits has a processor that sleeps, or waits for ever.
      unfold Stop.finish at hfinish
      split at hfinish
      · obtain ⟨session, outcome, hended⟩ := returned_ended clients stop.host stop.call _
        rw [hended] at hfinish
        cases hfinish
      · cases hfinish
      · rename_i ms rest hhalt
        obtain rfl := CallProgress.waits.inj hfinish
        by_cases htime : stop.host.now + ms * 1000000 ≤ now.now
        · rw [resume_later stop rest htime]
          exact ⟨_, _, hworks.goesOn hhalt now, rfl, fun _ _ _ => rfl⟩
        · exact hstays (if_neg htime)
      · obtain rfl := CallProgress.waits.inj hfinish
        exact hstays rfl

/-- A call that comes from another one, with what has happened in its session since. -/
structure Continues (first : Call) (os : List Occurrence) (call : Call) : Prop where
  session : call.session = first.session.undergoAll os
  number : call.number = first.number
  feeds : call.feeds = first.feeds
  runner : call.runner = first.runner
  event : call.event = first.event
  guard : call.guard = first.guard
  watch : call.watch = first.watch

lemma Continues.work (h : first.Continues os call) (clients : Clients E L) (host : Host E L)
    (behaviour : Behaviour (Except Cause Json.Members)) :
    first.Continues (os ++ call.stretch clients host behaviour)
      (call.work clients host behaviour).call := by
  refine ⟨?_, h.number, h.feeds, h.runner, h.event, h.guard, h.watch⟩
  rw [Session.undergoAll_append, ← h.session]
  exact Behaviour.session_run (call.surroundings clients) host
    { call.session with clocks := host.clocks, today := host.today } behaviour

lemma Continues.refl (call : Call) : call.Continues [] call := ⟨rfl, rfl, rfl, rfl, rfl, rfl, rfl⟩

lemma Continues.later {stop : Stop E L} (h : first.Continues os stop.call) (ms : Nat)
    (rest : Behaviour (Except Cause Json.Members)) : first.Continues os (stop.later ms rest) :=
  ⟨h.session, h.number, h.feeds, h.runner, h.event, h.guard, h.watch⟩

/-- Nothing but the session of a call changes while its processor works. -/
theorem Works.continues {stop : Stop E L} (h : Works clients host call behaviour os stop) :
    call.Continues os stop.call := by
  induction h with
  | begins => exact (Continues.refl call).work clients host behaviour
  | goesOn h hhalt now ih => exact (ih.later _ _).work clients now _

end Call

end ProcessorHost
