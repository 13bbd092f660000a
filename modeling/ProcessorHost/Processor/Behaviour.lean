import ProcessorHost.Lifecycle
import ProcessorHost.Session.Session

/-!
# Behaviours of processors

A behaviour is everything a processor may do while it works on an event, as a tree: it acts
on its session, looks at it, reports its health, waits, and in the end returns or panics.
A branch may also wait for ever. Nothing is assumed about which of these a processor does.
-/

namespace ProcessorHost

inductive Behaviour (α : Type)
  | returns (a : α)
  | panics (message : String)
  /-- Acts on the session and goes on with the reply. -/
  | act (action : Action) (next : Reply → Behaviour α)
  /-- Looks at the session. -/
  | look (next : Session → Behaviour α)
  /-- Reports the processor's own health. -/
  | report (status : Health) (next : Behaviour α)
  /-- Asks for the processor's own health. -/
  | health (next : Health → Behaviour α)
  /-- Waits for some milliseconds. -/
  | sleep (ms : Nat) (next : Behaviour α)
  /-- Waits for ever. -/
  | pend

/-- Where a behaviour stops for the time being. -/
inductive Halt (α : Type)
  | returned (a : α)
  | panicked (message : String)
  /-- It goes on after some milliseconds, at least one. -/
  | sleeping (ms : Nat) (rest : Behaviour α)
  /-- It waits for ever. -/
  | pending

/-- What a behaviour works in: something that takes what its session gives out, and keeps
the processor's health. -/
structure Surroundings (σ : Type) where
  deliver : σ → Delivery → σ
  note : σ → LogRecord → σ
  setHealth : σ → Health → σ
  health : σ → Health

namespace Surroundings

/-- Passes on what a session has given out since it had so many deliveries and records. -/
def passOn {σ : Type} (env : Surroundings σ) (state : σ) (deliveries records : Nat)
    (session : Session) : σ :=
  let state := (session.deliveries.drop deliveries).foldl env.deliver state
  (session.log.drop records).foldl env.note state

end Surroundings

namespace Behaviour

variable {α β : Type}

/-- Goes on where a behaviour returns. -/
def andThen : Behaviour α → (α → Behaviour β) → Behaviour β
  | returns a, f => f a
  | panics message, _ => panics message
  | act action next, f => act action fun reply => (next reply).andThen f
  | look next, f => look fun session => (next session).andThen f
  | report status next, f => report status (next.andThen f)
  | health next, f => health fun status => (next status).andThen f
  | sleep ms next, f => sleep ms (next.andThen f)
  | pend, _ => pend

instance : Monad Behaviour where
  pure := returns
  bind := andThen

/-- Acts and returns the reply. -/
def perform (action : Action) : Behaviour Reply := act action returns

/-- Runs a behaviour until it stops. What an action gives out is passed on before the
next. -/
def run {σ : Type} (env : Surroundings σ) (state : σ) (session : Session) :
    Behaviour α → σ × Session × Halt α
  | returns a => (state, session, .returned a)
  | panics message => (state, session, .panicked message)
  | act action next =>
    let (after, reply) := session.perform action
    let state := env.passOn state session.deliveries.length session.log.length after
    (next reply).run env state after
  | look next => (next session).run env state session
  | report status next => next.run env (env.setHealth state status) session
  | health next => (next (env.health state)).run env state session
  | sleep 0 next => next.run env state session
  | sleep (ms + 1) next => (state, session, .sleeping (ms + 1) next)
  | pend => (state, session, .pending)

end Behaviour

end ProcessorHost
