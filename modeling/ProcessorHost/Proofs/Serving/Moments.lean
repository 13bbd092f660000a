import Mathlib.Logic.Relation
import ProcessorHost.Proofs.Serving.Plan
import ProcessorHost.Proofs.Serving.Undisturbed

/-!
# The moments of serving

A server that serves is at a moment between two deeds of its plan. From there it does the next
deed, or somebody else does something to the host that leaves its standing alone. The serving
state, and the health under the names that are left alone, are then functions of what has been
done so far; and a property of what has been done holds at every moment if the plan ensures it,
whatever comes of the deeds that can fail.
-/

namespace ProcessorHost

variable {α β E L : Type}

namespace ServingState

/-- The states so far, if the state is now another one or still the same. -/
def visit (passed : List ServingState) (s : ServingState) : List ServingState :=
  if passed.getLast? = some s then passed else passed ++ [s]

lemma getLast?_visit (passed : List ServingState) (s : ServingState) :
    (visit passed s).getLast? = some s := by
  unfold visit
  split
  · assumption
  · exact List.getLast?_concat

lemma visit_of_last {passed : List ServingState} {s : ServingState}
    (h : passed.getLast? = some s) : visit passed s = passed := if_pos h

end ServingState

namespace ServeDeed

/-- Does something to a host, without waiting for anything. -/
def perform (clients : Clients E L) (host : Host E L) :
    ServeDeed → Host E L × Except Cause Unit
  | operates op => op.perform clients host
  | changes call => (host.withServing (call.apply host.serving), .ok ())
  | started _ => (host, .ok ())
  | stops _ => (host, .ok ())
  | attends => (host, .ok ())

/-- Only to register and to deregister may fail. -/
def MayGive (result : Except Cause Unit) : ServeDeed → Prop
  | operates (.register _) => True
  | operates (.deregister _) => True
  | _ => result = .ok ()

lemma perform_mayGive (clients : Clients E L) (host : Host E L) (deed : ServeDeed) :
    deed.MayGive (deed.perform clients host).2 := by
  cases deed with
  | operates op =>
    cases op with
    | register r => trivial
    | deregister id => trivial
    | setHealth name status => rfl
    | stopTiming => rfl
    | note record => rfl
  | changes call => rfl
  | started service => rfl
  | stops service => rfl
  | attends => rfl

/-- The health that is set under a name. -/
def health? (name : String) : ServeDeed → Option Health
  | operates (.setHealth service status) => if name = service then some status else none
  | _ => none

lemma health?_setHealth (name service : String) (status : Health) :
    (operates (.setHealth service status)).health? name =
      if name = service then some status else none := rfl

def isOperation : ServeDeed → Bool
  | operates _ => true
  | _ => false

def started? : ServeDeed → Option String
  | started service => some service
  | _ => none

def stopped? : ServeDeed → Option String
  | stops service => some service
  | _ => none

/-- The serving state that is set. -/
def state? : ServeDeed → Option ServingState
  | changes call => some call.state
  | _ => none

/-- The states that are passed through from a first one. -/
def states (first : ServingState) (deeds : List ServeDeed) : List ServingState :=
  (deeds.filterMap state?).foldl ServingState.visit [first]

lemma states_concat (first : ServingState) (deeds : List ServeDeed) (deed : ServeDeed) :
    states first (deeds ++ [deed]) =
      deed.state?.elim (states first deeds) (ServingState.visit (states first deeds)) := by
  unfold states
  rw [List.filterMap_append, List.foldl_append]
  cases hstate : deed.state? with
  | none => simp [hstate]
  | some s => simp [hstate]

lemma perform_state (clients : Clients E L) (host : Host E L) (deed : ServeDeed) :
    (deed.perform clients host).1.serving.state = deed.state?.getD host.serving.state := by
  cases deed with
  | operates op =>
    cases op with
    | _ => rfl
  | changes call => exact call.state_apply host.serving
  | started service => rfl
  | stops service => rfl
  | attends => rfl

lemma perform_health {clients : Clients E L} (hlaw : clients.lifecycle.IsLawful) (host : Host E L)
    (deed : ServeDeed) (name : String) :
    (deed.perform clients host).1.health clients name =
      (deed.health? name).getD (host.health clients name) := by
  cases deed with
  | operates op =>
    cases op with
    | register r => exact hlaw.health_register host.lifecycle r name
    | deregister id => exact hlaw.health_deregister host.lifecycle id name
    | setHealth service status =>
      by_cases hname : name = service
      · subst hname
        rw [health?_setHealth, if_pos rfl]
        exact hlaw.health_setHealth_self host.lifecycle name status
      · rw [health?_setHealth, if_neg hname]
        exact hlaw.health_setHealth_of_ne host.lifecycle service status name hname
    | stopTiming => rfl
    | note record => rfl
  | changes call => rfl
  | started service => rfl
  | stops service => rfl
  | attends => rfl

end ServeDeed

/-- What was done and what came of it, the earliest first. -/
abbrev ServeHistory := List (ServeDeed × Except Cause Unit)

namespace ServeHistory

/-- What was done apart from operations. -/
def marks (h : ServeHistory) : List ServeDeed :=
  (h.map (·.1)).filter fun deed => !deed.isOperation

/-- The services that have started. -/
def started (h : ServeHistory) : List String := h.marks.filterMap ServeDeed.started?

/-- The services that have begun to stop. -/
def stopping (h : ServeHistory) : List String := h.marks.filterMap ServeDeed.stopped?

/-- The health that was last set under a name. -/
def health? (name : String) (h : ServeHistory) : Option Health :=
  h.foldl (fun last entry => (entry.1.health? name).or last) none

lemma marks_concat (h : ServeHistory) (deed : ServeDeed) (result : Except Cause Unit) :
    marks (h ++ [(deed, result)]) = h.marks ++ if deed.isOperation then [] else [deed] := by
  unfold marks
  cases hop : deed.isOperation with
  | true => simp [hop]
  | false => simp [hop]

lemma states_marks_concat (first : ServingState) (h : ServeHistory) (deed : ServeDeed)
    (result : Except Cause Unit) :
    ServeDeed.states first (marks (h ++ [(deed, result)])) =
      deed.state?.elim (ServeDeed.states first h.marks)
        (ServingState.visit (ServeDeed.states first h.marks)) := by
  rw [marks_concat, ← ServeDeed.states_concat]
  cases deed with
  | operates op =>
    rw [ServeDeed.states_concat]
    change ServeDeed.states first (h.marks ++ []) = _
    rw [List.append_nil]
    rfl
  | changes call => rfl
  | started service => rfl
  | stops service => rfl
  | attends => rfl

lemma health?_concat (name : String) (h : ServeHistory) (deed : ServeDeed)
    (result : Except Cause Unit) :
    health? name (h ++ [(deed, result)]) = (deed.health? name).or (h.health? name) := by
  unfold health?
  rw [List.foldl_append]
  rfl

end ServeHistory

/-- Where a server is between two deeds. -/
structure ServeMoment (E L : Type) where
  host : Host E L
  history : ServeHistory
  /-- The serving states so far, each change once. -/
  passed : List ServingState
  /-- What is still to be done. -/
  plan : ServePlan (Except Cause Unit)

namespace ServeMoment

variable {clients : Clients E L} {names : List String} {m m' : ServeMoment E L} {host : Host E L}

def begin (host : Host E L) (plan : ServePlan (Except Cause Unit)) : ServeMoment E L :=
  ⟨host, [], [host.serving.state], plan⟩

/-- The server does the next deed, or somebody else does something that leaves alone the serving
state and the health under some names. -/
inductive Step (clients : Clients E L) (names : List String) :
    ServeMoment E L → ServeMoment E L → Prop
  | acts {m : ServeMoment E L} {deed : ServeDeed} {next : Except Cause Unit → ServePlan _}
      {host : Host E L} {result : Except Cause Unit} (plan : m.plan = .act deed next)
      (outcome : deed.perform clients m.host = (host, result)) :
      Step clients names m
        ⟨host, m.history ++ [(deed, result)],
          ServingState.visit m.passed host.serving.state, next result⟩
  | others {m : ServeMoment E L} {host : Host E L}
      (standing : Host.SameStanding clients names m.host host) :
      Step clients names m { m with host, passed := ServingState.visit m.passed host.serving.state }

def Reaches (clients : Clients E L) (names : List String) :
    ServeMoment E L → ServeMoment E L → Prop :=
  Relation.ReflTransGen (Step clients names)

/-- The standing of the host is what has been made of it. -/
structure Accounted (clients : Clients E L) (names : List String) (host : Host E L)
    (m : ServeMoment E L) : Prop where
  current : m.passed.getLast? = some m.host.serving.state
  passed : m.passed = ServeDeed.states host.serving.state m.history.marks
  health : ∀ name ∈ names,
    m.host.health clients name = (m.history.health? name).getD (host.health clients name)

lemma Accounted.begin (host : Host E L) (plan : ServePlan (Except Cause Unit)) :
    Accounted clients names host (begin host plan) :=
  ⟨rfl, rfl, fun _ _ => rfl⟩

lemma Accounted.step (hlaw : clients.lifecycle.IsLawful) (h : Accounted clients names host m)
    (hstep : Step clients names m m') : Accounted clients names host m' := by
  cases hstep with
  | others hstanding =>
    refine ⟨ServingState.getLast?_visit _ _, ?_, ?_⟩
    · dsimp only
      rw [hstanding.state, ServingState.visit_of_last h.current]
      exact h.passed
    · intro name hmem
      exact (hstanding.health name hmem).trans (h.health name hmem)
  | @acts deed next after result hplan houtcome =>
    have hstate := deed.perform_state clients m.host
    rw [houtcome] at hstate
    refine ⟨ServingState.getLast?_visit _ _, ?_, ?_⟩
    · dsimp only
      rw [ServeHistory.states_marks_concat, ← h.passed, hstate]
      cases deed.state? with
      | none => exact ServingState.visit_of_last h.current
      | some s => rfl
    · intro name hmem
      have hhealth := deed.perform_health hlaw m.host name
      rw [houtcome] at hhealth
      rw [hhealth, h.health name hmem, ServeHistory.health?_concat]
      cases deed.health? name with
      | none => rfl
      | some status => rfl

theorem Reaches.accounted (hlaw : clients.lifecycle.IsLawful)
    {plan : ServePlan (Except Cause Unit)} (h : Reaches clients names (begin host plan) m) :
    Accounted clients names host m := by
  induction h with
  | refl => exact .begin host plan
  | tail _ hstep ih => exact ih.step hlaw hstep

end ServeMoment

namespace ServePlan

variable {I J : ServeHistory → Prop} {Q R : α → ServeHistory → Prop} {h : ServeHistory}

/-- `I` holds of what has been done at every moment of a plan, and `Q` at its end, whatever comes of
the deeds that may fail. -/
def Ensures (I : ServeHistory → Prop) (Q : α → ServeHistory → Prop) :
    ServePlan α → ServeHistory → Prop
  | done a, h => I h ∧ Q a h
  | act deed next, h =>
    I h ∧ ∀ result, deed.MayGive result → (next result).Ensures I Q (h ++ [(deed, result)])

lemma Ensures.now {plan : ServePlan α} (hplan : plan.Ensures I Q h) : I h := by
  cases plan with
  | done a => exact hplan.1
  | act deed next => exact hplan.1

lemma Ensures.mono {plan : ServePlan α} (hplan : plan.Ensures I Q h) (hI : ∀ h, I h → J h)
    (hQ : ∀ a h, Q a h → R a h) : plan.Ensures J R h := by
  induction plan generalizing h with
  | done a => exact ⟨hI h hplan.1, hQ a h hplan.2⟩
  | act deed next ih =>
    refine ⟨hI h hplan.1, ?_⟩
    intro result hresult
    exact ih result (hplan.2 result hresult)

/-- Where the first of two plans ends the second begins. -/
lemma Ensures.andThen {plan : ServePlan β} {f : β → ServePlan α} {S : β → ServeHistory → Prop}
    (hplan : plan.Ensures I S h) (hf : ∀ b h, S b h → (f b).Ensures I Q h) :
    (plan.andThen f).Ensures I Q h := by
  induction plan generalizing h with
  | done b => exact hf b h hplan.2
  | act deed next ih =>
    refine ⟨hplan.1, ?_⟩
    intro result hresult
    exact ih result (hplan.2 result hresult)

/-- A deed that cannot fail. -/
lemma Ensures.after {deed : ServeDeed} {plan : ServePlan α} (hnow : I h)
    (hdeed : ∀ result, deed.MayGive result → result = .ok ())
    (hnext : plan.Ensures I Q (h ++ [(deed, .ok ())])) : (after deed plan).Ensures I Q h := by
  refine ⟨hnow, ?_⟩
  intro result hresult
  rw [hdeed result hresult]
  exact hnext

variable {P : ServeHistory → Prop}

/-- What no operation changes is not changed by operations up to the first that fails. -/
lemma untilFailure_keeps {ops : List ServiceOperation} (hnow : P h)
    (hkeeps : ∀ op ∈ ops, ∀ h result, P h → P (h ++ [(.operates op, result)])) :
    (untilFailure ops).Ensures P (fun _ h => P h) h := by
  induction ops generalizing h with
  | nil => exact ⟨hnow, hnow⟩
  | cons op rest ih =>
    refine ⟨hnow, ?_⟩
    intro result _
    have hnext := hkeeps op List.mem_cons_self h result hnow
    cases result with
    | error e => exact ⟨hnext, hnext⟩
    | ok _ => exact ih hnext fun op hmem => hkeeps op (List.mem_cons_of_mem _ hmem)

lemma throughout_keeps {ops : List ServiceOperation} (failure : Option Cause) (hnow : P h)
    (hkeeps : ∀ op ∈ ops, ∀ h result, P h → P (h ++ [(.operates op, result)])) :
    (throughout failure ops).Ensures P (fun _ h => P h) h := by
  induction ops generalizing h failure with
  | nil =>
    cases failure with
    | none => exact ⟨hnow, hnow⟩
    | some e => exact ⟨hnow, hnow⟩
  | cons op rest ih =>
    refine ⟨hnow, ?_⟩
    intro result _
    have hnext := hkeeps op List.mem_cons_self h result hnow
    have hrest := fun failure => ih failure hnext
      fun op hmem => hkeeps op (List.mem_cons_of_mem _ hmem)
    cases result with
    | error e => exact hrest _
    | ok _ => exact hrest _

end ServePlan

namespace ServeMoment

variable {clients : Clients E L} {names : List String} {m m' : ServeMoment E L}
  {I : ServeHistory → Prop} {Q : Except Cause Unit → ServeHistory → Prop}

lemma ensures_step (h : m.plan.Ensures I Q m.history) (hstep : Step clients names m m') :
    m'.plan.Ensures I Q m'.history := by
  cases hstep with
  | others hstanding => exact h
  | @acts deed next after result hplan houtcome =>
    rw [hplan] at h
    have hresult := deed.perform_mayGive clients m.host
    rw [houtcome] at hresult
    exact h.2 result hresult

/-- What a plan ensures holds at every moment. -/
theorem Reaches.ensures (hreach : Reaches clients names m m') (h : m.plan.Ensures I Q m.history) :
    m'.plan.Ensures I Q m'.history := by
  induction hreach with
  | refl => exact h
  | tail _ hstep ih => exact ensures_step ih hstep

end ServeMoment

namespace Executor

variable {clients : Clients E L} {names : List String}

/-- Whatever happens while a server waits leaves the standing alone. -/
def IsConsiderate (clients : Clients E L) (names : List String)
    (attend : Executor E L → Executor E L) : Prop :=
  ∀ e : Executor E L, e.IsReserved names → Undisturbed clients names e (attend e)

/-- A deed of a plan that is gone through without a break, apart from what it has to wait for. -/
lemma performOn_undisturbed (server : Server) (hlaw : clients.lifecycle.IsLawful)
    (hserver : server.service.runner.IsReserved names) (fuel : Nat)
    {attend : Executor E L → Executor E L} (hattend : IsConsiderate clients names attend)
    {e : Executor E L} (h : e.IsReserved names) (deed : ServeDeed) :
    (deed.performOn clients server fuel attend e).2 = (deed.perform clients e.host).2 ∧
      Undisturbed clients names { e with host := (deed.perform clients e.host).1 }
        (deed.performOn clients server fuel attend e).1 := by
  cases deed with
  | operates op =>
    cases op with
    | stopTiming =>
      refine ⟨rfl, ?_⟩
      change Undisturbed clients names
        { e with host := { e.host with timing := e.host.timing.shutdown } }
        (if e.host.timing.running then
          awaitTiming clients server fuel
            { e with host := { e.host with timing := e.host.timing.shutdown } }
        else { e with host := { e.host with timing := e.host.timing.shutdown } })
      split
      · exact awaitTiming_undisturbed server hlaw hserver fuel h
      · exact .refl h
    | _ => exact ⟨rfl, .refl h⟩
  | attends => exact ⟨rfl, hattend e h⟩
  | _ => exact ⟨rfl, .refl h⟩

/-- To go through a plan without a break is one way to go through its moments. -/
theorem runOn_reaches (server : Server) (hlaw : clients.lifecycle.IsLawful)
    (hserver : server.service.runner.IsReserved names) (fuel : Nat)
    {attend : Executor E L → Executor E L} (hattend : IsConsiderate clients names attend)
    {e : Executor E L} (h : e.IsReserved names) (plan : ServePlan (Except Cause Unit))
    (history : ServeHistory) (passed : List ServingState) :
    ∃ m : ServeMoment E L, ServeMoment.Reaches clients names ⟨e.host, history, passed, plan⟩ m ∧
      m.plan = .done (plan.runOn clients server fuel attend e).2 ∧
      m.host = (plan.runOn clients server fuel attend e).1.host := by
  induction plan generalizing e history passed with
  | done result => exact ⟨_, .refl, rfl, rfl⟩
  | act deed next ih =>
    obtain ⟨hresult, hundisturbed⟩ := performOn_undisturbed server hlaw hserver fuel
      hattend h deed
    rw [ServePlan.runOn_act, hresult]
    obtain ⟨m, hreach, hplan, hhost⟩ := ih (deed.perform clients e.host).2 hundisturbed.reserved
      (history ++ [(deed, (deed.perform clients e.host).2)]) _
    refine ⟨m, ?_, hplan, hhost⟩
    exact .head (.acts rfl rfl) (.head (.others hundisturbed.standing) hreach)

end Executor

end ProcessorHost
