import Mathlib.Data.List.Basic
import Mathlib.Logic.Relation
import Mathlib.Tactic.Common
import ProcessorHost.Proofs.Call.LeaseProgress

/-!
# Calls among each other

Any number of calls share one host. At any moment one of them may be opened, go on with
whatever its processor does next, or be broken off, and a task that was left to give a lease
back may run; in between, anything else may happen to the host. The client is watched: each
request is kept with the call it was made for. Every such step opens one event, gives one lease
back, or leaves both the requests and what is still owed as they were.
-/

namespace ProcessorHost

variable {E L : Type}

/-- What was asked of an events client. -/
inductive LeaseRequest
  | opened (id : String) (result : Except Cause Event)
  | closed (id : String)

/-- The state of a client, the call that is using it, and what the calls asked of it. -/
structure Watched (E : Type) where
  inner : E
  caller : Nat
  requests : List (Nat × LeaseRequest)

/-- The client, with every request kept. -/
def EventsClient.watched (client : EventsClient E) : EventsClient (Watched E) where
  openEvent e id :=
    let (inner, result) := client.openEvent e.inner id
    ({ e with inner, requests := e.requests ++ [(e.caller, .opened id result)] }, result)
  closeEvent e id :=
    let (inner, result) := client.closeEvent e.inner id
    ({ e with inner, requests := e.requests ++ [(e.caller, .closed id)] }, result)

def Clients.watched (clients : Clients E L) : Clients (Watched E) L :=
  ⟨clients.events.watched, clients.lifecycle⟩

/-- Takes the lease of a call; the processor has not begun. -/
def ProcessorRunner.openCall (clients : Clients E L) (r : ProcessorRunner) (host : Host E L)
    (number : Nat) (feeds : Bool) (request : ProcessRequest) : Host E L × Except Cause Call :=
  match clients.events.openEvent host.events request.eventId with
  | (events, .error e) => ({ host with events }, .error e)
  | (events, .ok event) =>
    let host := { host with events, invocations := host.invocations + 1 }
    (host, .ok (r.prepare host number feeds event))

/-- To begin a call is to open it and to let it go on with the processor's work. -/
lemma ProcessorRunner.beginCall_eq (clients : Clients E L) (r : ProcessorRunner)
    (host : Host E L) (number : Nat) (feeds : Bool) (request : ProcessRequest) :
    r.beginCall clients host number feeds request =
      match r.openCall clients host number feeds request with
      | (host, .error e) => (host, .ended none (.answered (.error (.eventsClient e))))
      | (host, .ok call) =>
        call.goOn clients host (r.processor.work r.binding call.event request.params) := by
  unfold ProcessorRunner.beginCall ProcessorRunner.openCall
  rcases clients.events.openEvent host.events request.eventId with ⟨events, e | event⟩
  · rfl
  · rfl

/-- Calls that share a host. The tasks they left to be run are out of the host's hands. -/
structure CallWorld (E L : Type) where
  host : Host (Watched E) L
  waiting : List Call
  /-- Leases to be given back, each with the number of its call. -/
  tasks : List (Nat × String)
  /-- The calls that were begun, with the events that were asked for. -/
  begun : List (Nat × String)
  noOrphans : host.orphans = []

namespace CallWorld

def inner (w : CallWorld E L) : E := w.host.events.inner

def requests (w : CallWorld E L) : List (Nat × LeaseRequest) := w.host.events.requests

/-- The leases that are still to be given back. -/
def obligations (w : CallWorld E L) : List (Nat × String) :=
  w.waiting.map Call.holds ++ w.tasks

/-- The host while a call uses it. -/
def asking (w : CallWorld E L) (number : Nat) : Host (Watched E) L :=
  { w.host with events := { w.host.events with caller := number } }

/-- Takes over what a call made of the host; its orphans become tasks. -/
def adopt (w : CallWorld E L) (number : Nat) (host : Host (Watched E) L) : CallWorld E L where
  host := { host with orphans := [] }
  waiting := w.waiting
  tasks := w.tasks ++ host.orphans.map (number, ·)
  begun := w.begun
  noOrphans := rfl

/-- Takes over the call as well, if it waits. -/
def adoptCall (w : CallWorld E L) (number : Nat) (come : Host (Watched E) L × CallProgress) :
    CallWorld E L :=
  match come.2 with
  | .waits call => { w.adopt number come.1 with waiting := call :: w.waiting }
  | .ended .. => w.adopt number come.1

def opens (clients : Clients E L) (w : CallWorld E L) (r : ProcessorRunner) (number : Nat)
    (feeds : Bool) (request : ProcessRequest) : CallWorld E L :=
  let begun := w.begun ++ [(number, request.eventId)]
  match r.openCall clients.watched (w.asking number) number feeds request with
  | (host, .error _) => { w.adopt number host with begun }
  | (host, .ok call) => { w.adopt number host with begun, waiting := call :: w.waiting }

def goesOn (clients : Clients E L) (w : CallWorld E L) (call : Call)
    (behaviour : Behaviour (Except Cause Json.Members)) : CallWorld E L :=
  w.adoptCall call.number (call.goOn clients.watched (w.asking call.number) behaviour)

/-- Begins a call, which goes on with its processor's work at once. -/
def begins (clients : Clients E L) (w : CallWorld E L) (r : ProcessorRunner) (number : Nat)
    (feeds : Bool) (request : ProcessRequest) : CallWorld E L :=
  { w with begun := w.begun ++ [(number, request.eventId)] }.adoptCall number
    (r.beginCall clients.watched (w.asking number) number feeds request)

def breaksOff (clients : Clients E L) (w : CallWorld E L) (call : Call) : CallWorld E L :=
  w.adopt call.number (call.breakOff clients.watched (w.asking call.number)).1

def closes (clients : Clients E L) (w : CallWorld E L) (task : Nat × String) : CallWorld E L :=
  w.adopt task.1 ((w.asking task.1).closeEvent clients.watched task.2)

/-- One step of one call, of one task, or of something else; `others` is what else may happen
to the client. -/
inductive Step (clients : Clients E L) (others : E → E → Prop) :
    CallWorld E L → CallWorld E L → Prop
  | opens {w : CallWorld E L} (r : ProcessorRunner) (number : Nat)
      (hnew : number ∉ w.begun.map Prod.fst) (feeds : Bool) (request : ProcessRequest) :
      Step clients others w (w.opens clients r number feeds request)
  | goesOn {w : CallWorld E L} {call : Call} {rest : List Call}
      (hcall : w.waiting.Perm (call :: rest))
      (behaviour : Behaviour (Except Cause Json.Members)) :
      Step clients others w ({ w with waiting := rest }.goesOn clients call behaviour)
  | breaksOff {w : CallWorld E L} {call : Call} {rest : List Call}
      (hcall : w.waiting.Perm (call :: rest)) :
      Step clients others w ({ w with waiting := rest }.breaksOff clients call)
  | closes {w : CallWorld E L} {task : Nat × String} {rest : List (Nat × String)}
      (htask : w.tasks.Perm (task :: rest)) :
      Step clients others w ({ w with tasks := rest }.closes clients task)
  | elsewhere {w : CallWorld E L} (host : Host (Watched E) L) (hnone : host.orphans = [])
      (hrequests : host.events.requests = w.requests) (hinner : others w.inner host.events.inner) :
      Step clients others w { w with host, noOrphans := hnone }

abbrev Steps (clients : Clients E L) (others : E → E → Prop) :
    CallWorld E L → CallWorld E L → Prop := Relation.ReflTransGen (Step clients others)

/-- What a step may be for the client. -/
inductive Effect (client : EventsClient E) (others : E → E → Prop) (w w' : CallWorld E L) : Prop
  | keeps (inner : w'.inner = w.inner ∨ others w.inner w'.inner)
      (requests : w'.requests = w.requests) (begun : w'.begun = w.begun)
      (owed : w'.obligations.Perm w.obligations)
  | opens (number : Nat) (id : String) (event : Event)
      (hnew : number ∉ w.begun.map Prod.fst)
      (inner : client.openEvent w.inner id = (w'.inner, .ok event))
      (requests : w'.requests = w.requests ++ [(number, .opened id (.ok event))])
      (begun : w'.begun = w.begun ++ [(number, id)])
      (owed : w'.obligations.Perm ((number, event.id) :: w.obligations))
  | fails (number : Nat) (id : String) (e : Cause) (hnew : number ∉ w.begun.map Prod.fst)
      (inner : client.openEvent w.inner id = (w'.inner, .error e))
      (requests : w'.requests = w.requests ++ [(number, .opened id (.error e))])
      (begun : w'.begun = w.begun ++ [(number, id)])
      (owed : w'.obligations.Perm w.obligations)
  | closes (number : Nat) (id : String) (inner : w'.inner = (client.closeEvent w.inner id).1)
      (requests : w'.requests = w.requests ++ [(number, .closed id)])
      (begun : w'.begun = w.begun)
      (owed : w.obligations.Perm ((number, id) :: w'.obligations))

variable {clients : Clients E L} {others : E → E → Prop} {w w' : CallWorld E L}

lemma leases_asking (w : CallWorld E L) (number : Nat) :
    (w.asking number).leases = ({ w.host.events with caller := number }, []) :=
  congrArg (Prod.mk _) w.noOrphans

lemma opens_effect (w : CallWorld E L) (r : ProcessorRunner) {number : Nat}
    (hnew : number ∉ w.begun.map Prod.fst) (feeds : Bool) (request : ProcessRequest) :
    Effect clients.events others w (w.opens clients r number feeds request) := by
  have hopen : clients.watched.events.openEvent (w.asking number).events request.eventId =
      ({ inner := (clients.events.openEvent w.inner request.eventId).1, caller := number,
          requests := w.requests ++ [(number,
            .opened request.eventId (clients.events.openEvent w.inner request.eventId).2)] },
        (clients.events.openEvent w.inner request.eventId).2) := rfl
  unfold opens ProcessorRunner.openCall
  rw [hopen]
  rcases hinner : clients.events.openEvent w.inner request.eventId with ⟨inner, e | event⟩
  · refine .fails number request.eventId e hnew hinner rfl rfl ?_
    simp [obligations, adopt, asking, w.noOrphans]
  · refine .opens number request.eventId event hnew hinner rfl rfl ?_
    simp [obligations, adopt, asking, w.noOrphans, Call.holds, ProcessorRunner.prepare]

/-- One lease is given back, and nothing else happens. -/
structure GivesBack (client : EventsClient E) (w : CallWorld E L) (lease : Nat × String)
    (w' : CallWorld E L) : Prop where
  inner : w'.inner = (client.closeEvent w.inner lease.2).1
  requests : w'.requests = w.requests ++ [(lease.1, .closed lease.2)]
  waiting : w'.waiting = w.waiting
  tasks : w'.tasks = w.tasks
  begun : w'.begun = w.begun

/-- Nothing is asked of the client. -/
structure AsksNothing (w w' : CallWorld E L) : Prop where
  inner : w'.inner = w.inner
  requests : w'.requests = w.requests
  begun : w'.begun = w.begun

/-- A call waits again, with the lease it had. -/
structure WaitsOn (w : CallWorld E L) (call : Call) (w' : CallWorld E L) : Prop
    extends AsksNothing w w' where
  waiting : ∃ after : Call, after.holds = call.holds ∧ w'.waiting = after :: w.waiting
  tasks : w'.tasks = w.tasks

/-- A call that is not among the waiting gives its lease back, or leaves it to one task. -/
inductive GivesUp (client : EventsClient E) (w : CallWorld E L) (call : Call)
    (w' : CallWorld E L) : Prop
  | givesBack (h : GivesBack client w call.holds w')
  | leaves (h : AsksNothing w w') (waiting : w'.waiting = w.waiting)
      (tasks : w'.tasks = w.tasks ++ [call.holds])

lemma adopt_givesBack {number : Nat} {id : String} {host : Host (Watched E) L}
    (h : host.leases = ((clients.watched.events.closeEvent (w.asking number).events id).1, [])) :
    GivesBack clients.events w (number, id) (w.adopt number host) := by
  obtain ⟨hevents, horphans⟩ := Prod.mk.inj h
  refine ⟨?_, ?_, rfl, ?_, rfl⟩
  · change host.events.inner = _
    rw [hevents]
    rfl
  · change host.events.requests = _
    rw [hevents]
    rfl
  · change w.tasks ++ host.orphans.map _ = _
    rw [horphans, List.map_nil, List.append_nil]

lemma adopt_asksNothing {number : Nat} {host : Host (Watched E) L} {waiting : List Call}
    (h : host.events = (w.asking number).events) :
    AsksNothing w { w.adopt number host with waiting } := by
  refine ⟨?_, ?_, rfl⟩
  · change host.events.inner = _
    rw [h]
    rfl
  · change host.events.requests = _
    rw [h]
    rfl

lemma adopt_leaves {call : Call} {host : Host (Watched E) L}
    (h : host.leases = ((w.asking call.number).events, [call.event.id])) :
    GivesUp clients.events w call (w.adopt call.number host) := by
  obtain ⟨hevents, horphans⟩ := Prod.mk.inj h
  refine .leaves (adopt_asksNothing hevents) rfl ?_
  change w.tasks ++ host.orphans.map _ = _
  rw [horphans]
  rfl

/-- What becomes of a call that goes on, in a world without it. -/
lemma goesOn_cases (clients : Clients E L) (w : CallWorld E L) (call : Call)
    (behaviour : Behaviour (Except Cause Json.Members)) :
    (∀ after, (call.goOn clients.watched (w.asking call.number) behaviour).2 = .waits after →
      WaitsOn w call (w.goesOn clients call behaviour)) ∧
    ∀ session outcome,
      (call.goOn clients.watched (w.asking call.number) behaviour).2 = .ended session outcome →
        GivesUp clients.events w call (w.goesOn clients call behaviour) := by
  have hprogress := Call.goOn_progress clients.watched (w.asking call.number) call behaviour
  unfold goesOn adoptCall
  rcases hgo : call.goOn clients.watched (w.asking call.number) behaviour with ⟨host, progress⟩
  rw [hgo] at hprogress
  dsimp only
  cases hprogress with
  | @waits after same =>
    obtain ⟨hevents, horphans⟩ := Prod.mk.inj (same.leases.trans (leases_asking _ _))
    refine ⟨fun _ _ => ⟨adopt_asksNothing hevents, ⟨after, same.holds, rfl⟩, ?_⟩, nofun⟩
    change w.tasks ++ host.orphans.map _ = _
    rw [horphans, List.map_nil, List.append_nil]
  | closed leases =>
    refine ⟨nofun, fun _ _ _ => .givesBack (adopt_givesBack ?_)⟩
    exact leases.trans (congrArg (Prod.mk _) w.noOrphans)
  | orphaned leases =>
    refine ⟨nofun, fun _ _ _ => adopt_leaves ?_⟩
    exact leases.trans (congrArg (fun orphans => (_, orphans ++ [call.event.id])) w.noOrphans)

lemma breaksOff_givesUp (clients : Clients E L) (w : CallWorld E L) (call : Call) :
    GivesUp clients.events w call (w.breaksOff clients call) :=
  adopt_leaves ((Call.breakOff_leases clients.watched (w.asking call.number) call).trans
    (congrArg (fun orphans => (_, orphans ++ [call.event.id])) w.noOrphans))

lemma closes_givesBack (clients : Clients E L) (w : CallWorld E L) (task : Nat × String) :
    GivesBack clients.events w task (w.closes clients task) :=
  adopt_givesBack ((Host.leases_closeEvent _ _ _).trans (congrArg (Prod.mk _) w.noOrphans))

lemma obligations_of_perm {call : Call} {rest : List Call}
    (hcall : w.waiting.Perm (call :: rest)) :
    w.obligations.Perm (call.holds :: { w with waiting := rest }.obligations) :=
  (hcall.map Call.holds).append_right w.tasks

/-- One lease is given back for a call that is no longer among the waiting or among the tasks. -/
lemma GivesBack.effect {rest : CallWorld E L} {lease : Nat × String}
    (h : GivesBack clients.events rest lease w') (hinner : rest.inner = w.inner)
    (hrequests : rest.requests = w.requests) (hbegun : rest.begun = w.begun)
    (howed : w.obligations.Perm (lease :: rest.obligations)) :
    Effect clients.events others w w' := by
  have hobligations : w'.obligations = rest.obligations := by
    rw [obligations, h.waiting, h.tasks, obligations]
  exact .closes lease.1 lease.2 (hinner ▸ h.inner) (hrequests ▸ h.requests)
    (h.begun.trans hbegun) (hobligations ▸ howed)

lemma GivesUp.effect {call : Call} {rest : List Call} (hcall : w.waiting.Perm (call :: rest))
    (h : GivesUp clients.events { w with waiting := rest } call w') :
    Effect clients.events others w w' := by
  cases h with
  | givesBack h => exact h.effect rfl rfl rfl (obligations_of_perm hcall)
  | leaves h waiting tasks =>
    refine .keeps (.inl h.inner) h.requests h.begun ?_
    refine List.Perm.trans ?_ (obligations_of_perm hcall).symm
    rw [obligations, waiting, tasks, ← List.append_assoc]
    exact List.perm_append_singleton _ _

lemma WaitsOn.effect {call : Call} {rest : List Call} (hcall : w.waiting.Perm (call :: rest))
    (h : WaitsOn { w with waiting := rest } call w') : Effect clients.events others w w' := by
  obtain ⟨after, hholds, hwaiting⟩ := h.waiting
  refine .keeps (.inl h.inner) h.requests h.begun ?_
  refine List.Perm.trans ?_ (obligations_of_perm hcall).symm
  rw [obligations, hwaiting, h.tasks, List.map_cons, hholds]
  exact List.Perm.refl _

lemma goesOn_effect {call : Call} {rest : List Call} (hcall : w.waiting.Perm (call :: rest))
    (behaviour : Behaviour (Except Cause Json.Members)) :
    Effect clients.events others w
      ({ w with waiting := rest }.goesOn clients call behaviour) := by
  obtain ⟨hwaits, hended⟩ := goesOn_cases clients { w with waiting := rest } call behaviour
  cases hprogress : (call.goOn clients.watched
    (({ w with waiting := rest } : CallWorld E L).asking call.number) behaviour).2 with
  | waits after => exact (hwaits after hprogress).effect hcall
  | ended session outcome => exact (hended session outcome hprogress).effect hcall

lemma closes_effect {task : Nat × String} {rest : List (Nat × String)}
    (htask : w.tasks.Perm (task :: rest)) :
    Effect clients.events others w ({ w with tasks := rest }.closes clients task) :=
  (closes_givesBack clients { w with tasks := rest } task).effect rfl rfl rfl
    ((htask.append_left _).trans List.perm_middle)

/-- Every step is one of four things for the client. -/
theorem Step.effect (h : Step clients others w w') : Effect clients.events others w w' := by
  cases h with
  | opens r number hnew feeds request => exact opens_effect w r hnew feeds request
  | goesOn hcall behaviour => exact goesOn_effect hcall behaviour
  | breaksOff hcall => exact (breaksOff_givesUp clients _ _).effect hcall
  | closes htask => exact closes_effect htask
  | elsewhere host hnone hrequests hinner =>
    exact .keeps (.inr hinner) hrequests rfl (List.Perm.refl _)

/-- A call that has just been opened is the one that uses the client. -/
lemma openCall_asking {r : ProcessorRunner} {number : Nat} {feeds : Bool}
    {request : ProcessRequest} {host : Host (Watched E) L} {call : Call}
    (h : r.openCall clients.watched (w.asking number) number feeds request = (host, .ok call)) :
    call.number = number ∧ host.orphans = [] ∧ host.events.caller = number := by
  unfold ProcessorRunner.openCall at h
  split at h
  · cases h
  · rename_i events event hopen
    obtain ⟨rfl, hcall⟩ := Prod.mk.inj h
    obtain rfl := Except.ok.inj hcall
    exact ⟨rfl, w.noOrphans, congrArg (fun opened => opened.1.caller) hopen.symm⟩

lemma asking_adopt {number : Nat} {host : Host (Watched E) L} (horphans : host.orphans = [])
    (hcaller : host.events.caller = number) : (w.adopt number host).asking number = host := by
  rcases host with ⟨⟨inner, caller, requests⟩, _, _, _, _, _, _, _, _, orphans, _, _⟩
  dsimp only at horphans hcaller
  subst horphans hcaller
  rfl

lemma adoptCall_adopt {number : Nat} {host : Host (Watched E) L} (horphans : host.orphans = [])
    (come : Host (Watched E) L × CallProgress) :
    (w.adopt number host).adoptCall number come = w.adoptCall number come := by
  unfold adoptCall adopt
  rw [horphans]
  cases come.2 with
  | waits call => simp
  | ended session outcome => simp

/-- A call that is begun is opened, and goes on with its processor's work at once unless its event
could not be opened. -/
inductive OpensThenGoesOn (clients : Clients E L) (w : CallWorld E L) (r : ProcessorRunner)
    (number : Nat) (feeds : Bool) (request : ProcessRequest) : CallWorld E L → Prop
  | refused (hwaiting : (w.opens clients r number feeds request).waiting = w.waiting) :
      OpensThenGoesOn clients w r number feeds request (w.opens clients r number feeds request)
  | goesOn {call : Call}
      (hwaiting : (w.opens clients r number feeds request).waiting = call :: w.waiting) :
      OpensThenGoesOn clients w r number feeds request
        ({ w.opens clients r number feeds request with waiting := w.waiting }.goesOn clients call
          (r.processor.work r.binding call.event request.params))

/-- What the opened call does next is seen from the host as it is when the call has been opened. -/
lemma goesOn_adopt {call : Call} {host : Host (Watched E) L} (horphans : host.orphans = [])
    (hcaller : host.events.caller = call.number)
    (behaviour : Behaviour (Except Cause Json.Members)) :
    (w.adopt call.number host).goesOn clients call behaviour =
      w.adoptCall call.number (call.goOn clients.watched host behaviour) := by
  unfold goesOn
  rw [asking_adopt horphans hcaller, adoptCall_adopt horphans]

theorem opensThenGoesOn_begins (clients : Clients E L) (w : CallWorld E L) (r : ProcessorRunner)
    (number : Nat) (feeds : Bool) (request : ProcessRequest) :
    OpensThenGoesOn clients w r number feeds request
      (w.begins clients r number feeds request) := by
  unfold begins
  rw [ProcessorRunner.beginCall_eq]
  rcases hopen : r.openCall clients.watched (w.asking number) number feeds request with
    ⟨host, e | call⟩
  · have hopens : w.opens clients r number feeds request =
        ({ w with begun := w.begun ++ [(number, request.eventId)] } : CallWorld E L).adopt
          number host := by
      unfold opens
      rw [hopen]
      rfl
    dsimp only [adoptCall]
    rw [← hopens]
    exact .refused (by rw [hopens]; rfl)
  · obtain ⟨rfl, horphans, hcaller⟩ := openCall_asking hopen
    have hopens : w.opens clients r call.number feeds request =
        { ({ w with begun := w.begun ++ [(call.number, request.eventId)] } : CallWorld E L).adopt
          call.number host with waiting := call :: w.waiting } := by
      unfold opens
      rw [hopen]
      rfl
    have hwaiting : (w.opens clients r call.number feeds request).waiting = call :: w.waiting := by
      rw [hopens]
    have hgoes := OpensThenGoesOn.goesOn hwaiting
    dsimp only
    rw [← goesOn_adopt horphans hcaller]
    rw [hopens] at hgoes
    exact hgoes

lemma OpensThenGoesOn.steps {r : ProcessorRunner} {number : Nat} {feeds : Bool}
    {request : ProcessRequest} (h : OpensThenGoesOn clients w r number feeds request w')
    (hnew : number ∉ w.begun.map Prod.fst) : Steps clients others w w' := by
  have hopens : Step clients others w (w.opens clients r number feeds request) :=
    .opens r number hnew feeds request
  cases h with
  | refused => exact .single hopens
  | goesOn hwaiting => exact .tail (.single hopens) (.goesOn (.of_eq hwaiting) _)

/-- To begin a call is a run, so that the runs are those of whole calls. -/
theorem begins_steps (w : CallWorld E L) (r : ProcessorRunner) {number : Nat}
    (hnew : number ∉ w.begun.map Prod.fst) (feeds : Bool) (request : ProcessRequest) :
    Steps clients others w (w.begins clients r number feeds request) :=
  (opensThenGoesOn_begins clients w r number feeds request).steps hnew

end CallWorld

end ProcessorHost
