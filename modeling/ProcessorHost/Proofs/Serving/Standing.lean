import Mathlib.Tactic.Common
import ProcessorHost.Host.Executor
import ProcessorHost.Proofs.Call.LeaseProgress

/-!
# What requests leave alone

Nothing that a host does for the requests it gets changes its serving state, and it changes no
health but that which a processor reports of itself. So if no processor reports its health under
some names, then the state and the health under these names, the standing of the host, stay as
they are while requests are answered and time passes.
-/

namespace ProcessorHost

variable {σ α β E L : Type} {allowed : Prop}

/-- What the documentation of a lifecycle says of health. -/
structure LifecycleClient.IsLawful (client : LifecycleClient L) : Prop where
  health_setHealth_self : ∀ l name status,
    client.health (client.setHealth l name status) name = status
  health_setHealth_of_ne : ∀ l name status other, other ≠ name →
    client.health (client.setHealth l name status) other = client.health l other
  health_register : ∀ l r name, client.health (client.register l r).1 name = client.health l name
  health_deregister : ∀ l id name,
    client.health (client.deregister l id).1 name = client.health l name

lemma Lifecycle.client_isLawful : client.IsLawful where
  health_setHealth_self l name status := by
    change (Keyed.find? name (Keyed.insert name status l.health)).getD .unknown = status
    rw [Keyed.find?_insert_self]
    rfl
  health_setHealth_of_ne l name status other hne := by
    change (Keyed.find? other (Keyed.insert name status l.health)).getD .unknown = _
    rw [Keyed.find?_insert_of_ne hne]
    rfl
  health_register l r name := rfl
  health_deregister l id name := by
    unfold client deregister
    dsimp only
    cases Keyed.find? id l.registrations with
    | none => rfl
    | some registration => rfl

namespace Behaviour

/-- The processor's health is not reported, unless that is allowed. -/
def ReportsOnly (allowed : Prop) : Behaviour α → Prop
  | returns _ => True
  | panics _ => True
  | act _ next => ∀ reply, (next reply).ReportsOnly allowed
  | look next => ∀ session, (next session).ReportsOnly allowed
  | report _ next => allowed ∧ next.ReportsOnly allowed
  | health next => ∀ status, (next status).ReportsOnly allowed
  | sleep _ next => next.ReportsOnly allowed
  | pend => True

end Behaviour

/-- The same of what is left of a behaviour that waits. -/
def Halt.ReportsOnly (allowed : Prop) : Halt α → Prop
  | sleeping _ rest => rest.ReportsOnly allowed
  | _ => True

namespace Surroundings

/-- What `f` sees changes at most when health is reported, and then only if that is not allowed. -/
structure Spares (env : Surroundings σ) (allowed : Prop) (f : σ → β) : Prop where
  deliver : ∀ state d, f (env.deliver state d) = f state
  note : ∀ state record, f (env.note state record) = f state
  setHealth : allowed → ∀ state status, f (env.setHealth state status) = f state

lemma Spares.passOn {env : Surroundings σ} {f : σ → β} (h : env.Spares allowed f) (state : σ)
    (deliveries records : Nat) (session : Session) :
    f (env.passOn state deliveries records session) = f state := by
  unfold Surroundings.passOn
  dsimp only
  rw [foldl_preserves h.note, foldl_preserves h.deliver]

lemma Spares.run {env : Surroundings σ} {f : σ → β} (h : env.Spares allowed f) (state : σ)
    (session : Session) {behaviour : Behaviour α} (honly : behaviour.ReportsOnly allowed) :
    f (behaviour.run env state session).1 = f state ∧
      (behaviour.run env state session).2.2.ReportsOnly allowed := by
  induction behaviour generalizing state session with
  | returns a => exact ⟨rfl, trivial⟩
  | panics message => exact ⟨rfl, trivial⟩
  | act action next ih =>
    obtain ⟨hrun, hrest⟩ := ih (session.perform action).2
      (env.passOn state session.deliveries.length session.log.length (session.perform action).1)
      (session.perform action).1 (honly _)
    exact ⟨hrun.trans (h.passOn _ _ _ _), hrest⟩
  | look next ih => exact ih session state session (honly session)
  | report status next ih =>
    obtain ⟨hallowed, honly⟩ := honly
    obtain ⟨hrun, hrest⟩ := ih (env.setHealth state status) session honly
    exact ⟨hrun.trans (h.setHealth hallowed state status), hrest⟩
  | health next ih => exact ih (env.health state) state session (honly _)
  | sleep ms next ih =>
    cases ms with
    | zero => exact ih state session honly
    | succ ms => exact ⟨rfl, honly⟩
  | pend => exact ⟨rfl, trivial⟩

end Surroundings

namespace Host

variable {clients : Clients E L} {names : List String} {host host' host'' : Host E L}

/-- Two hosts with one serving state and the same health under some names. -/
structure SameStanding (clients : Clients E L) (names : List String) (host host' : Host E L) :
    Prop where
  state : host'.serving.state = host.serving.state
  health : ∀ name ∈ names, host'.health clients name = host.health clients name

lemma SameStanding.refl (host : Host E L) : SameStanding clients names host host :=
  ⟨rfl, fun _ _ => rfl⟩

lemma SameStanding.trans (h : SameStanding clients names host host')
    (h' : SameStanding clients names host' host'') : SameStanding clients names host host'' :=
  ⟨h'.state.trans h.state, fun name hmem => (h'.health name hmem).trans (h.health name hmem)⟩

/-- The serving state, with the calls in flight, and what the lifecycle keeps. -/
def office (host : Host E L) : Serving × L := (host.serving, host.lifecycle)

lemma SameStanding.of_office (h : host'.office = host.office) :
    SameStanding clients names host host' := by
  obtain ⟨hserving, hlifecycle⟩ := Prod.mk.inj h
  refine ⟨congrArg Serving.state hserving, ?_⟩
  intro name _
  unfold Host.health
  rw [hlifecycle]

lemma office_submit (host : Host E L) (sample : TimingSample) :
    (host.submit sample).office = host.office := by
  unfold submit
  split
  · rfl
  · rfl

lemma office_closeEvent (clients : Clients E L) (host : Host E L) (id : String) :
    (host.closeEvent clients id).office = host.office := by
  unfold closeEvent
  split
  · rfl
  · rfl

lemma office_closeOrphan (clients : Clients E L) (host : Host E L) :
    (host.closeOrphan clients).office = host.office := by
  unfold closeOrphan
  split
  · rfl
  · exact office_closeEvent clients _ _

end Host

namespace Call

variable {clients : Clients E L} {names : List String}

/-- Whoever the call waits for reports no health under some names. -/
def IsReserved (names : List String) (call : Call) : Prop :=
  call.rest.ReportsOnly (call.runner.binding.processorId ∉ names)

lemma surroundings_spare (clients : Clients E L) (call : Call) :
    (call.surroundings clients).Spares False Host.office where
  deliver host d := by
    unfold surroundings
    dsimp only
    split
    · split
      · exact Host.office_submit host d.sample
      · rfl
    · rfl
  note host record := rfl
  setHealth h := h.elim

lemma surroundings_spare_state (clients : Clients E L) (call : Call) (allowed : Prop) :
    (call.surroundings clients).Spares allowed fun host => host.serving.state where
  deliver host d := congrArg (·.1.state) ((surroundings_spare clients call).deliver host d)
  note _ _ := rfl
  setHealth _ _ _ := rfl

/-- Reports under other names do not count. -/
lemma surroundings_spare_health (hlaw : clients.lifecycle.IsLawful) (call : Call) {name : String}
    (hmem : name ∈ names) :
    (call.surroundings clients).Spares (call.runner.binding.processorId ∉ names)
      fun host => host.health clients name where
  deliver host d := congrArg (fun office : Serving × L => clients.lifecycle.health office.2 name)
    ((surroundings_spare clients call).deliver host d)
  note _ _ := rfl
  setHealth hreserved host status := by
    have hne : name ≠ call.runner.binding.processorId := fun h => hreserved (h ▸ hmem)
    exact hlaw.health_setHealth_of_ne host.lifecycle call.runner.binding.processorId status name hne

lemma pass_office (clients : Clients E L) (host : Host E L) (call : Call) (session : Session) :
    (call.pass clients host session).1.office = host.office :=
  (surroundings_spare clients call).passOn _ _ _ _

lemma releaseHeld_office (clients : Clients E L) (host : Host E L) (call : Call)
    (panic : Option String) : (call.releaseHeld clients host panic).1.office = host.office :=
  pass_office clients host call _

lemma releaseOwn_office (clients : Clients E L) (host : Host E L) (call : Call)
    (panic : Option String) : (call.releaseOwn clients host panic).1.office = host.office := by
  unfold releaseOwn
  dsimp only
  split
  · exact pass_office clients host call _
  · exact pass_office clients host call _

lemma releaseAll_office (clients : Clients E L) (host : Host E L) (call : Call)
    (panic : Option String) : (call.releaseAll clients host panic).1.office = host.office :=
  (releaseOwn_office clients _ _ _).trans (releaseHeld_office clients host call panic)

lemma stopWatch_office (clients : Clients E L) (host : Host E L) (call : Call) :
    (call.stopWatch clients host).1.office = host.office := by
  unfold stopWatch
  dsimp only
  split
  · exact pass_office clients host call _
  · rfl

lemma answer_office (host : Host E L) (call : Call) (result : Except Cause Json.Members)
    (stopped : StopOutcome) : (call.answer host result stopped).1.office = host.office := by
  unfold answer
  split
  · rfl
  · rfl
  · split
    · rfl
    · rfl

lemma returned_office (clients : Clients E L) (host : Host E L) (call : Call)
    (result : Except Cause Json.Members) :
    (call.returned clients host result).1.office = host.office := by
  unfold returned
  have hheld := releaseHeld_office clients host call none
  split
  · rename_i host₁ call₁ message heq
    rw [heq] at hheld
    exact (releaseOwn_office clients host₁ call₁ _).trans hheld
  · rename_i host₁ call₁ heq
    rw [heq] at hheld
    have hwatch := (stopWatch_office clients host₁ call₁).trans hheld
    split
    · rename_i host₂ call₂ watch heq₂
      rw [heq₂] at hwatch
      exact (releaseOwn_office clients host₂ call₂ _).trans hwatch
    · rename_i host₂ call₂ stopped hstopped heq₂
      rw [heq₂] at hwatch
      have hown := (releaseOwn_office clients host₂ call₂ none).trans hwatch
      split
      · rename_i host₃ call₃ message heq₃
        rw [heq₃] at hown
        exact hown
      · rename_i host₃ call₃ heq₃
        rw [heq₃] at hown
        exact ((answer_office _ call₃ result stopped).trans
          (Host.office_closeEvent clients host₃ call₃.event.id)).trans hown

end Call

/-- The same of a call that may have ended. -/
def CallProgress.IsReserved (names : List String) : CallProgress → Prop
  | waits call => call.IsReserved names
  | ended _ _ => True

namespace Call

variable {clients : Clients E L} {names : List String}

lemma returned_isReserved (clients : Clients E L) (host : Host E L) (call : Call)
    (result : Except Cause Json.Members) :
    (call.returned clients host result).2.IsReserved names := by
  unfold returned
  split
  · trivial
  · split
    · trivial
    · split
      · trivial
      · trivial

/-- What a behaviour of the processor leaves of the standing. -/
lemma goOn_standing (names : List String) (hlaw : clients.lifecycle.IsLawful) (host : Host E L)
    (call : Call)
    {behaviour : Behaviour (Except Cause Json.Members)}
    (honly : behaviour.ReportsOnly (call.runner.binding.processorId ∉ names)) :
    Host.SameStanding clients names host (call.goOn clients host behaviour).1 ∧
      (call.goOn clients host behaviour).2.IsReserved names := by
  unfold goOn
  dsimp only
  have hstate := (surroundings_spare_state clients call _).run host
    { call.session with clocks := host.clocks, today := host.today } honly
  have hhealth := fun name (hmem : name ∈ names) => (surroundings_spare_health hlaw call hmem).run
    host { call.session with clocks := host.clocks, today := host.today } honly
  cases hbehaviour : behaviour.run (call.surroundings clients) host
    { call.session with clocks := host.clocks, today := host.today } with
  | mk host₁ stopped =>
    obtain ⟨session, halt⟩ := stopped
    rw [hbehaviour] at hstate
    have hsame : Host.SameStanding clients names host { host₁ with clocks := session.clocks } := by
      refine ⟨hstate.1, ?_⟩
      intro name hmem
      have hname := (hhealth name hmem).1
      rw [hbehaviour] at hname
      exact hname
    cases halt with
    | returned result =>
      exact ⟨hsame.trans (.of_office (returned_office clients _ _ result)),
        returned_isReserved clients _ _ result⟩
    | panicked message =>
      exact ⟨hsame.trans (.of_office (releaseAll_office clients _ _ _)), trivial⟩
    | sleeping ms rest => exact ⟨hsame, hstate.2⟩
    | pending => exact ⟨hsame, trivial⟩

lemma resume_standing (hlaw : clients.lifecycle.IsLawful) (host : Host E L) {call : Call}
    (h : call.IsReserved names) :
    Host.SameStanding clients names host (call.resume clients host).1 ∧
      (call.resume clients host).2.IsReserved names := by
  unfold resume
  split
  · split
    · exact goOn_standing names hlaw host call h
    · exact ⟨.refl host, h⟩
  · exact ⟨.refl host, h⟩

lemma breakOff_office (clients : Clients E L) (host : Host E L) (call : Call) :
    (call.breakOff clients host).1.office = host.office :=
  releaseAll_office clients host call none

end Call

namespace Runner

variable {clients : Clients E L} {names : List String}

/-- A processor that reports no health under some names. -/
def IsReserved (names : List String) : Runner → Prop
  | hosted r => ∀ event params,
      (r.processor.work r.binding event params).ReportsOnly (r.binding.processorId ∉ names)
  | other _ _ => True

lemma beginCall_standing (hlaw : clients.lifecycle.IsLawful) (host : Host E L) {runner : Runner}
    (h : runner.IsReserved names) (number : Nat) (feeds : Bool) (request : ProcessRequest) :
    Host.SameStanding clients names host (runner.beginCall clients host number feeds request).1 ∧
      (runner.beginCall clients host number feeds request).2.IsReserved names := by
  cases runner with
  | other identity answer => exact ⟨.refl host, trivial⟩
  | hosted r =>
    unfold beginCall ProcessorRunner.beginCall
    dsimp only
    split
    · exact ⟨.of_office rfl, trivial⟩
    · rename_i events event heq
      have hopen : Host.SameStanding clients names host
          { host with events, invocations := host.invocations + 1 } := .of_office rfl
      obtain ⟨hsame, hreserved⟩ := Call.goOn_standing names hlaw
        { host with events, invocations := host.invocations + 1 }
        (r.prepare { host with events, invocations := host.invocations + 1 } number feeds event)
        (h event request.params)
      exact ⟨hopen.trans hsame, hreserved⟩

end Runner

end ProcessorHost
