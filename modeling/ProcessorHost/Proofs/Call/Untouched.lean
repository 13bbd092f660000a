import ProcessorHost.Proofs.Call.LeaseProgress

/-!
# What calls leave alone

A call that has begun reaches its host in few ways: it hands over samples, reports, sets the health
of its processor, moves the clocks, and gives up its lease. What none of these changes is not
changed by the call either, whatever its processor does and however it ends.
-/

namespace ProcessorHost

variable {α E L : Type}

/-- Nothing that a call does to a host changes what `f` sees. -/
structure Host.Untouched (f : Host E L → α) : Prop where
  submit : ∀ host sample, f (host.submit sample) = f host
  received : ∀ (host : Host E L) received, f { host with received } = f host
  note : ∀ host record, f (host.note record) = f host
  lifecycle : ∀ (host : Host E L) lifecycle, f { host with lifecycle } = f host
  clocks : ∀ (host : Host E L) clocks, f { host with clocks } = f host
  events : ∀ (host : Host E L) events, f { host with events } = f host
  orphans : ∀ (host : Host E L) orphans, f { host with orphans } = f host

namespace Host

lemma invocations_untouched : Untouched fun host : Host E L => host.invocations where
  submit host sample := by
    unfold submit
    split
    · rfl
    · rfl
  received _ _ := rfl
  note _ _ := rfl
  lifecycle _ _ := rfl
  clocks _ _ := rfl
  events _ _ := rfl
  orphans _ _ := rfl

namespace Untouched

variable {f : Host E L → α} (h : Untouched f) (clients : Clients E L)

include h

lemma closeEvent (host : Host E L) (id : String) : f (host.closeEvent clients id) = f host := by
  unfold Host.closeEvent
  split
  · exact h.events _ _
  · exact (h.note _ _).trans (h.events _ _)

lemma surroundings (call : Call) : (call.surroundings clients).Preserves f where
  deliver host d := by
    unfold Call.surroundings
    dsimp only
    split
    · split
      · exact h.submit host d.sample
      · exact h.received host _
    · rfl
  note host record := h.note host record
  setHealth host status := h.lifecycle host _

lemma pass (host : Host E L) (call : Call) (session : Session) :
    f (call.pass clients host session).1 = f host :=
  (h.surroundings clients call).passOn _ _ _ _

lemma releaseHeld (host : Host E L) (call : Call) (panic : Option String) :
    f (call.releaseHeld clients host panic).1 = f host :=
  h.pass clients host call _

lemma releaseOwn (host : Host E L) (call : Call) (panic : Option String) :
    f (call.releaseOwn clients host panic).1 = f host := by
  unfold Call.releaseOwn
  dsimp only
  split
  · exact h.pass clients host call _
  · exact h.pass clients host call _

lemma releaseAll (host : Host E L) (call : Call) (panic : Option String) :
    f (call.releaseAll clients host panic).1 = f host :=
  (h.releaseOwn clients _ _ _).trans (h.releaseHeld clients host call panic)

lemma stopWatch (host : Host E L) (call : Call) : f (call.stopWatch clients host).1 = f host := by
  unfold Call.stopWatch
  dsimp only
  split
  · exact h.pass clients host call _
  · rfl

lemma answer (host : Host E L) (call : Call) (result : Except Cause Json.Members)
    (stopped : StopOutcome) : f (call.answer host result stopped).1 = f host := by
  unfold Call.answer
  split
  · rfl
  · rfl
  · split
    · rfl
    · exact h.note _ _

lemma returned (host : Host E L) (call : Call) (result : Except Cause Json.Members) :
    f (call.returned clients host result).1 = f host := by
  unfold Call.returned
  have hheld := h.releaseHeld clients host call none
  split
  · rename_i host₁ call₁ message heq
    rw [heq] at hheld
    exact ((h.orphans _ _).trans (h.releaseOwn clients host₁ call₁ _)).trans hheld
  · rename_i host₁ call₁ heq
    rw [heq] at hheld
    have hwatch := (h.stopWatch clients host₁ call₁).trans hheld
    split
    · rename_i host₂ call₂ watch heq₂
      rw [heq₂] at hwatch
      exact ((h.orphans _ _).trans (h.releaseOwn clients host₂ call₂ _)).trans hwatch
    · rename_i host₂ call₂ stopped hstopped heq₂
      rw [heq₂] at hwatch
      have hown := (h.releaseOwn clients host₂ call₂ none).trans hwatch
      split
      · rename_i host₃ call₃ message heq₃
        rw [heq₃] at hown
        exact (h.orphans _ _).trans hown
      · rename_i host₃ call₃ heq₃
        rw [heq₃] at hown
        exact ((h.answer _ call₃ result stopped).trans (h.closeEvent clients host₃ _)).trans hown

/-- Whatever the processor does, and however the call stops. -/
theorem goOn (host : Host E L) (call : Call) (behaviour : Behaviour (Except Cause Json.Members)) :
    f (call.goOn clients host behaviour).1 = f host := by
  unfold Call.goOn
  dsimp only
  have hrun := (h.surroundings clients call).run host
    { call.session with clocks := host.clocks, today := host.today } behaviour
  cases hbehaviour : behaviour.run (call.surroundings clients) host
    { call.session with clocks := host.clocks, today := host.today } with
  | mk host₁ stopped =>
    obtain ⟨session, halt⟩ := stopped
    rw [hbehaviour] at hrun
    have hsame := (h.clocks host₁ session.clocks).trans hrun
    cases halt with
    | returned result => exact (h.returned clients _ _ result).trans hsame
    | panicked message => exact ((h.orphans _ _).trans (h.releaseAll clients _ _ _)).trans hsame
    | sleeping ms rest => exact hsame
    | pending => exact hsame

lemma resume (host : Host E L) (call : Call) : f (call.resume clients host).1 = f host := by
  unfold Call.resume
  split
  · split
    · exact h.goOn clients host call call.rest
    · rfl
  · rfl

lemma breakOff (host : Host E L) (call : Call) : f (call.breakOff clients host).1 = f host :=
  (h.orphans _ _).trans (h.releaseAll clients host call none)

/-- The same of a call that begins, if the processor is not counted. -/
lemma beginCall (hinvocations : ∀ (host : Host E L) invocations,
      f { host with invocations } = f host) (runner : Runner) (host : Host E L) (number : Nat)
    (feeds : Bool) (request : ProcessRequest) :
    f (runner.beginCall clients host number feeds request).1 = f host := by
  cases runner with
  | other identity answer => rfl
  | hosted runner =>
    unfold Runner.beginCall ProcessorRunner.beginCall
    dsimp only
    split
    · exact h.events _ _
    · rename_i events event heq
      refine (h.goOn clients _ _ _).trans ?_
      exact (hinvocations { host with events } _).trans (h.events _ _)

end Untouched

end Host

end ProcessorHost
