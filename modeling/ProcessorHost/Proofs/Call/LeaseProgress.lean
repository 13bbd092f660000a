import Mathlib.Tactic.Common
import ProcessorHost.Call.Call

/-!
# The lease of a call

A call asks for its event once, when it is opened. From then on nothing but its end touches the
client's state or the orphans of the host: whatever the processor does, and however its session
and the call's own context are given up, the call either goes on waiting for the same event, or
gives the lease back itself, or leaves it as one orphan more.
-/

namespace ProcessorHost

variable {σ α E L : Type}

namespace Surroundings

/-- Nothing that a session gives out changes what `f` sees. -/
structure Preserves (env : Surroundings σ) (f : σ → α) : Prop where
  deliver : ∀ state d, f (env.deliver state d) = f state
  note : ∀ state record, f (env.note state record) = f state
  setHealth : ∀ state status, f (env.setHealth state status) = f state

lemma foldl_preserves {β : Type} {f : σ → α} {g : σ → β → σ}
    (h : ∀ state b, f (g state b) = f state) (bs : List β) (state : σ) :
    f (bs.foldl g state) = f state := by
  induction bs generalizing state with
  | nil => rfl
  | cons b rest ih => exact (ih _).trans (h _ _)

lemma Preserves.passOn {env : Surroundings σ} {f : σ → α} (h : env.Preserves f) (state : σ)
    (deliveries records : Nat) (session : Session) :
    f (env.passOn state deliveries records session) = f state := by
  unfold Surroundings.passOn
  dsimp only
  rw [foldl_preserves h.note, foldl_preserves h.deliver]

/-- A behaviour reaches its surroundings only through what they offer. -/
lemma Preserves.run {β : Type} {env : Surroundings σ} {f : σ → α} (h : env.Preserves f)
    (state : σ) (session : Session) (behaviour : Behaviour β) :
    f (behaviour.run env state session).1 = f state := by
  induction behaviour generalizing state session with
  | returns a => rfl
  | panics message => rfl
  | act action next ih => exact (ih _ _ _).trans (h.passOn _ _ _ _)
  | look next ih => exact ih _ _ _
  | report status next ih => exact (ih _ _).trans (h.setHealth _ _)
  | health next ih => exact ih _ _ _
  | sleep ms next ih =>
    cases ms with
    | zero => exact ih _ _
    | succ ms => rfl
  | pend => rfl

end Surroundings

namespace Host

/-- What the client keeps, and the leases that nobody has given back yet. -/
def leases (host : Host E L) : E × List String := (host.events, host.orphans)

lemma leases_submit (host : Host E L) (sample : TimingSample) :
    (host.submit sample).leases = host.leases := by
  unfold submit
  split
  · rfl
  · rfl

/-- Giving a lease back is one request to the client, whatever comes of it. -/
lemma leases_closeEvent (clients : Clients E L) (host : Host E L) (id : String) :
    (host.closeEvent clients id).leases =
      ((clients.events.closeEvent host.events id).1, host.orphans) := by
  unfold closeEvent
  split
  · rename_i events heq
    rw [heq]
    rfl
  · rename_i events e heq
    rw [heq]
    rfl

end Host

namespace Call

variable {clients : Clients E L} {host host' : Host E L} {call call' : Call}

/-- The number of a call and the event it holds. -/
def holds (call : Call) : Nat × String := (call.number, call.event.id)

/-- A call and its host after something that is not about leases. -/
structure SameLease (host : Host E L) (call : Call) (host' : Host E L) (call' : Call) : Prop where
  leases : host'.leases = host.leases
  event : call'.event = call.event
  number : call'.number = call.number

lemma SameLease.refl (host : Host E L) (call : Call) : SameLease host call host call :=
  ⟨rfl, rfl, rfl⟩

lemma SameLease.trans {host'' : Host E L} {call'' : Call} (h : SameLease host call host' call')
    (h' : SameLease host' call' host'' call'') : SameLease host call host'' call'' :=
  ⟨h'.leases.trans h.leases, h'.event.trans h.event, h'.number.trans h.number⟩

lemma SameLease.holds (h : SameLease host call host' call') : call'.holds = call.holds := by
  rw [Call.holds, Call.holds, h.number, h.event]

lemma surroundings_preserve (clients : Clients E L) (call : Call) :
    (call.surroundings clients).Preserves Host.leases where
  deliver host d := by
    unfold surroundings
    dsimp only
    split
    · split
      · exact Host.leases_submit host d.sample
      · rfl
    · rfl
  note host record := rfl
  setHealth host status := rfl

lemma pass_same (clients : Clients E L) (host : Host E L) (call : Call) (session : Session) :
    SameLease host call (call.pass clients host session).1 (call.pass clients host session).2 :=
  ⟨(surroundings_preserve clients call).passOn _ _ _ _, rfl, rfl⟩

lemma releaseHeld_same (clients : Clients E L) (host : Host E L) (call : Call)
    (panic : Option String) :
    SameLease host call (call.releaseHeld clients host panic).1
      (call.releaseHeld clients host panic).2.1 :=
  pass_same clients host call _

lemma releaseOwn_same (clients : Clients E L) (host : Host E L) (call : Call)
    (panic : Option String) :
    SameLease host call (call.releaseOwn clients host panic).1
      (call.releaseOwn clients host panic).2.1 := by
  unfold releaseOwn
  dsimp only
  split
  · exact pass_same clients host call _
  · exact pass_same clients host call _

lemma releaseAll_same (clients : Clients E L) (host : Host E L) (call : Call)
    (panic : Option String) :
    SameLease host call (call.releaseAll clients host panic).1
      (call.releaseAll clients host panic).2.1 :=
  (releaseHeld_same clients host call panic).trans (releaseOwn_same clients _ _ _)

lemma stopWatch_same (clients : Clients E L) (host : Host E L) (call : Call) :
    SameLease host call (call.stopWatch clients host).1 (call.stopWatch clients host).2.1 := by
  unfold stopWatch
  dsimp only
  split
  · obtain ⟨hleases, hevent, hnumber⟩ := pass_same clients host call (call.session.record 0 _ _)
    exact ⟨hleases, hevent, hnumber⟩
  · exact SameLease.refl host call

lemma answer_leases (host : Host E L) (call : Call) (result : Except Cause Json.Members)
    (stopped : StopOutcome) : (call.answer host result stopped).1.leases = host.leases := by
  unfold answer
  split
  · rfl
  · rfl
  · split
    · rfl
    · rfl

/-- What may have become of the lease when a call stops for the time being. -/
inductive LeaseProgress (clients : Clients E L) (host : Host E L) (call : Call)
    (host' : Host E L) : CallProgress → Prop
  | waits {call' : Call} (same : SameLease host call host' call') :
      LeaseProgress clients host call host' (.waits call')
  | closed {session : Option Session} {outcome : CallOutcome}
      (leases : host'.leases =
        ((clients.events.closeEvent host.events call.event.id).1, host.orphans)) :
      LeaseProgress clients host call host' (.ended session outcome)
  | orphaned {session : Option Session} {outcome : CallOutcome}
      (leases : host'.leases = (host.events, host.orphans ++ [call.event.id])) :
      LeaseProgress clients host call host' (.ended session outcome)

lemma orphan_leases (same : SameLease host call host' call') :
    (call'.orphan host').leases = (host.events, host.orphans ++ [call.event.id]) := by
  obtain ⟨hevents, horphans⟩ := Prod.mk.inj same.leases
  rw [← hevents, ← horphans, ← same.event]
  rfl

lemma panics_progress (same : SameLease host call host' call') (message : String) :
    LeaseProgress clients host call (call'.panics host' message).1
      (call'.panics host' message).2 :=
  .orphaned (orphan_leases same)

lemma LeaseProgress.of_same {host'' : Host E L} {progress : CallProgress}
    (h : LeaseProgress clients host' call' host'' progress)
    (same : SameLease host call host' call') : LeaseProgress clients host call host'' progress := by
  obtain ⟨hevents, horphans⟩ := Prod.mk.inj same.leases
  cases h with
  | waits h => exact .waits (same.trans h)
  | closed leases =>
    rw [hevents, horphans, same.event] at leases
    exact .closed leases
  | orphaned leases =>
    rw [hevents, horphans, same.event] at leases
    exact .orphaned leases

lemma returned_progress (clients : Clients E L) (host : Host E L) (call : Call)
    (result : Except Cause Json.Members) :
    LeaseProgress clients host call (call.returned clients host result).1
      (call.returned clients host result).2 := by
  unfold returned
  -- Three ways to panic, and then one to give the lease back.
  have hheld := releaseHeld_same clients host call none
  split
  · rename_i host₁ call₁ message heq
    rw [heq] at hheld
    exact panics_progress (hheld.trans (releaseOwn_same clients host₁ call₁ _)) message
  · rename_i host₁ call₁ heq
    rw [heq] at hheld
    have hwatch := hheld.trans (stopWatch_same clients host₁ call₁)
    split
    · rename_i host₂ call₂ watch heq₂
      rw [heq₂] at hwatch
      exact panics_progress (hwatch.trans (releaseOwn_same clients host₂ call₂ _)) _
    · rename_i host₂ call₂ stopped hstopped heq₂
      rw [heq₂] at hwatch
      have hown := hwatch.trans (releaseOwn_same clients host₂ call₂ none)
      split
      · rename_i host₃ call₃ message heq₃
        rw [heq₃] at hown
        exact panics_progress hown message
      · rename_i host₃ call₃ heq₃
        rw [heq₃] at hown
        refine LeaseProgress.of_same (.closed ?_) hown
        rw [answer_leases, Host.leases_closeEvent]

/-- What a behaviour of the processor makes of the lease: one spec for every way it stops. -/
theorem goOn_progress (clients : Clients E L) (host : Host E L) (call : Call)
    (behaviour : Behaviour (Except Cause Json.Members)) :
    LeaseProgress clients host call (call.goOn clients host behaviour).1
      (call.goOn clients host behaviour).2 := by
  unfold goOn
  dsimp only
  have hrun := (surroundings_preserve clients call).run host
    { call.session with clocks := host.clocks, today := host.today } behaviour
  cases hbehaviour : behaviour.run (call.surroundings clients) host
    { call.session with clocks := host.clocks, today := host.today } with
  | mk host₁ stopped =>
    obtain ⟨session, halt⟩ := stopped
    rw [hbehaviour] at hrun
    have hsame : SameLease host call { host₁ with clocks := session.clocks }
        { call with session } := ⟨hrun, rfl, rfl⟩
    cases halt with
    | returned result => exact (returned_progress clients _ _ result).of_same hsame
    | panicked message =>
      exact panics_progress (hsame.trans (releaseAll_same clients _ _ _)) message
    | sleeping ms rest => exact .waits ⟨hrun, rfl, rfl⟩
    | pending => exact .waits ⟨hrun, rfl, rfl⟩

lemma breakOff_leases (clients : Clients E L) (host : Host E L) (call : Call) :
    (call.breakOff clients host).1.leases = (host.events, host.orphans ++ [call.event.id]) :=
  orphan_leases (releaseAll_same clients host call none)

end Call

end ProcessorHost
