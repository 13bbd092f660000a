import ProcessorHost.Proofs.Call.Endings
import ProcessorHost.Proofs.Event.LeaseCounts

/-!
# Leases are given back once

Whatever the client answers, the requests made for one call take one of three courses: its event
could not be opened; or it was opened and is owed by the call or by one task; or it was opened
and given back, once and under the identifier of the event that was opened, and nothing is owed
any more. With the store as the client each count is therefore what it was at the beginning and
one more for everything that is owed, so that in the end it is what it was.
-/

namespace ProcessorHost

variable {E L : Type}

namespace CallWorld

/-- What was asked for a call, in order. -/
def asked (w : CallWorld E L) (number : Nat) : List LeaseRequest :=
  (w.requests.filter fun r => r.1 = number).map Prod.snd

/-- What a call, or a task it left, has still to give back. -/
def owed (w : CallWorld E L) (number : Nat) : List String :=
  (w.obligations.filter fun o => o.1 = number).map Prod.snd

structure IsIdle (w : CallWorld E L) : Prop where
  waiting : w.waiting = []
  tasks : w.tasks = []
  begun : w.begun = []
  requests : w.requests = []

/-- The requests made for a call that asked for an event, and what is owed. -/
inductive LeaseCourse (id : String) : List LeaseRequest → List String → Prop
  | refused (e : Cause) : LeaseCourse id [.opened id (.error e)] []
  | held (event : Event) : LeaseCourse id [.opened id (.ok event)] [event.id]
  | given (event : Event) : LeaseCourse id [.opened id (.ok event), .closed event.id] []

/-- Every call is on one of the courses, and requests are made for no others. -/
structure ClosesOnce (w : CallWorld E L) : Prop where
  begun : ∀ number id, (number, id) ∈ w.begun → LeaseCourse id (w.asked number) (w.owed number)
  others : ∀ number, number ∉ w.begun.map Prod.fst → w.asked number = [] ∧ w.owed number = []

variable {clients : Clients E L} {others : E → E → Prop} {w w' : CallWorld E L}

lemma asked_of_append {number : Nat} {request : LeaseRequest}
    (h : w'.requests = w.requests ++ [(number, request)]) (n : Nat) :
    w'.asked n = w.asked n ++ if n = number then [request] else [] := by
  unfold asked
  rw [h, List.filter_append, List.map_append]
  by_cases hn : n = number
  · simp [hn]
  · simp [hn, Ne.symm hn]

lemma owed_of_perm (h : w'.obligations.Perm w.obligations) (n : Nat) :
    (w'.owed n).Perm (w.owed n) := (h.filter _).map _

lemma owed_of_cons {number : Nat} {id : String}
    (h : w.obligations.Perm ((number, id) :: w'.obligations)) (n : Nat) :
    (w.owed n).Perm ((if n = number then [id] else []) ++ w'.owed n) := by
  have hperm := (h.filter fun o => decide (o.1 = n)).map Prod.snd
  by_cases hn : n = number
  · subst hn
    simpa [owed] using hperm
  · simpa [owed, hn, Ne.symm hn] using hperm

/-- At most one lease is owed, so its place among others does not matter. -/
lemma LeaseCourse.of_perm {id : String} {requests : List LeaseRequest} {owed owed' : List String}
    (h : LeaseCourse id requests owed) (hperm : owed'.Perm owed) :
    LeaseCourse id requests owed' := by
  cases h with
  | refused e => exact hperm.eq_nil ▸ .refused e
  | held event => exact hperm.eq_singleton ▸ .held event
  | given event => exact hperm.eq_nil ▸ .given event

lemma LeaseCourse.close {id key : String} {requests : List LeaseRequest} {owed owed' : List String}
    (h : LeaseCourse id requests owed) (hperm : owed.Perm (key :: owed')) :
    LeaseCourse id (requests ++ [.closed key]) owed' := by
  cases h with
  | refused e => exact absurd hperm.symm.eq_nil (List.cons_ne_nil _ _)
  | held event =>
    obtain ⟨rfl, rfl⟩ := List.cons.inj hperm.symm.eq_singleton
    exact .given event
  | given event => exact absurd hperm.symm.eq_nil (List.cons_ne_nil _ _)

lemma ClosesOnce.of_idle (h : w.IsIdle) : w.ClosesOnce where
  begun number id hmem := by simp [h.begun] at hmem
  others number hnew := by simp [asked, owed, obligations, h.requests, h.waiting, h.tasks]

/-- The call that is begun by a step takes its course; the others stay on theirs. -/
lemma ClosesOnce.begin (h : w.ClosesOnce) {number : Nat} {id : String}
    (hnew : number ∉ w.begun.map Prod.fst) (hbegun : w'.begun = w.begun ++ [(number, id)])
    (hcourse : LeaseCourse id (w'.asked number) (w'.owed number))
    (hothers : ∀ n, n ≠ number → w'.asked n = w.asked n ∧ (w'.owed n).Perm (w.owed n)) :
    w'.ClosesOnce := by
  constructor
  · intro n id' hmem
    rw [hbegun, List.mem_append, List.mem_singleton] at hmem
    rcases hmem with hmem | heq
    · have hne : n ≠ number := by
        intro hn
        exact hnew (hn ▸ List.mem_map_of_mem hmem)
      obtain ⟨hasked, howed⟩ := hothers n hne
      rw [hasked]
      exact (h.begun n id' hmem).of_perm howed
    · obtain ⟨rfl, rfl⟩ := Prod.mk.inj heq
      exact hcourse
  · intro n hn
    rw [hbegun, List.map_append, List.mem_append, not_or] at hn
    have hne : n ≠ number := fun heq => hn.2 (by simp [heq])
    obtain ⟨hasked, howed⟩ := hothers n hne
    obtain ⟨hnone, hnothing⟩ := h.others n hn.1
    rw [hnothing] at howed
    exact ⟨hasked.trans hnone, howed.eq_nil⟩

/-- A step that begins no call takes each of them along its course. -/
lemma ClosesOnce.proceed (h : w.ClosesOnce) (hbegun : w'.begun = w.begun)
    (hcourse : ∀ n id, LeaseCourse id (w.asked n) (w.owed n) →
      LeaseCourse id (w'.asked n) (w'.owed n))
    (hnone : ∀ n, w.asked n = [] → w.owed n = [] → w'.asked n = [] ∧ w'.owed n = []) :
    w'.ClosesOnce := by
  constructor
  · intro n id hmem
    rw [hbegun] at hmem
    exact hcourse n id (h.begun n id hmem)
  · intro n hn
    rw [hbegun] at hn
    obtain ⟨hasked, howed⟩ := h.others n hn
    exact hnone n hasked howed

lemma ClosesOnce.effect {client : EventsClient E} (h : w.ClosesOnce)
    (heffect : Effect client others w w') : w'.ClosesOnce := by
  cases heffect with
  | keeps inner requests begun owed =>
    have hasked (n : Nat) : w'.asked n = w.asked n := by rw [asked, requests, asked]
    refine h.proceed begun (fun n id hcourse => ?_) fun n hnone hnothing => ?_
    · rw [hasked]
      exact hcourse.of_perm (owed_of_perm owed n)
    · have hperm := owed_of_perm owed n
      rw [hnothing] at hperm
      exact ⟨(hasked n).trans hnone, hperm.eq_nil⟩
  | opens number id event hnew inner requests begun owed =>
    obtain ⟨hnone, hnothing⟩ := h.others number hnew
    refine h.begin hnew begun ?_ fun n hne => ⟨?_, ?_⟩
    · have hperm := owed_of_cons owed number
      rw [hnothing, if_pos rfl] at hperm
      rw [asked_of_append requests, hnone, if_pos rfl]
      exact (LeaseCourse.held event).of_perm hperm
    · rw [asked_of_append requests, if_neg hne, List.append_nil]
    · have hperm := owed_of_cons owed n
      rwa [if_neg hne] at hperm
  | fails number id e hnew inner requests begun owed =>
    obtain ⟨hnone, hnothing⟩ := h.others number hnew
    refine h.begin hnew begun ?_ fun n hne => ⟨?_, owed_of_perm owed n⟩
    · have hperm := owed_of_perm owed number
      rw [hnothing] at hperm
      rw [asked_of_append requests, hnone, if_pos rfl]
      exact (LeaseCourse.refused e).of_perm hperm
    · rw [asked_of_append requests, if_neg hne, List.append_nil]
  | closes number id inner requests begun owed =>
    refine h.proceed begun (fun n id' hcourse => ?_) fun n hnone hnothing => ?_
    · have hperm := owed_of_cons owed n
      rw [asked_of_append requests]
      by_cases hn : n = number
      · rw [if_pos hn] at hperm ⊢
        exact hcourse.close hperm
      · rw [if_neg hn] at hperm ⊢
        rw [List.append_nil]
        exact hcourse.of_perm hperm.symm
    · have hperm := owed_of_cons owed n
      rw [hnothing] at hperm
      -- A call that was not begun owes nothing, so it is not the one of this step.
      obtain ⟨hif, hnil⟩ := List.append_eq_nil_iff.mp hperm.symm.eq_nil
      by_cases heq : n = number
      · rw [if_pos heq] at hif
        cases hif
      · rw [asked_of_append requests, if_neg heq, List.append_nil]
        exact ⟨hnone, hnil⟩

/-- What a run makes of the courses of the calls. -/
theorem ClosesOnce.steps (h : w.ClosesOnce) (hsteps : Steps clients others w w') :
    w'.ClosesOnce := by
  induction hsteps with
  | refl => exact h
  | tail _ hstep ih => exact ih.effect hstep.effect

/-- What the calls of a number hold while they wait. -/
def held (w : CallWorld E L) (number : Nat) : List String :=
  ((w.waiting.map Call.holds).filter fun o => o.1 = number).map Prod.snd

/-- What the calls of a number have left to tasks. -/
def left (w : CallWorld E L) (number : Nat) : List String :=
  (w.tasks.filter fun o => o.1 = number).map Prod.snd

lemma owed_eq (w : CallWorld E L) (number : Nat) :
    w.owed number = w.held number ++ w.left number := by
  rw [owed, obligations, List.filter_append, List.map_append]
  rfl

/-- The lease that a call got has been given back. -/
structure GivenBack (w : CallWorld E L) (number : Nat) (id : String) (event : Event) : Prop where
  asked : w.asked number = [.opened id (.ok event), .closed event.id]
  held : w.held number = []
  left : w.left number = []

/-- The lease that a call got is left to one task. -/
structure LeftToTask (w : CallWorld E L) (number : Nat) (id : String) (event : Event) : Prop where
  asked : w.asked number = [.opened id (.ok event)]
  held : w.held number = []
  left : w.left number = [event.id]

/-- Where a lease is owed it was got by a call that was begun, and nothing else is owed for it. -/
lemma ClosesOnce.of_owed (h : w.ClosesOnce) {lease : Nat × String} {rest : CallWorld E L}
    (howed : w.obligations.Perm (lease :: rest.obligations)) :
    ∃ id event, (lease.1, id) ∈ w.begun ∧ w.asked lease.1 = [.opened id (.ok event)] ∧
      event.id = lease.2 ∧ rest.held lease.1 = [] ∧ rest.left lease.1 = [] := by
  have hperm := owed_of_cons howed lease.1
  rw [if_pos rfl] at hperm
  by_cases hbegun : lease.1 ∈ w.begun.map Prod.fst
  · obtain ⟨⟨number, id⟩, hmem, hnumber⟩ := List.mem_map.mp hbegun
    obtain rfl : number = lease.1 := hnumber
    have hcourse := h.begun _ id hmem
    generalize w.asked lease.1 = requests at hcourse ⊢
    generalize w.owed lease.1 = owed at hcourse hperm
    cases hcourse with
    | refused e => exact absurd hperm.symm.eq_nil (List.cons_ne_nil _ _)
    | held event =>
      obtain ⟨hid, hnothing⟩ := List.cons.inj hperm.symm.eq_singleton
      obtain ⟨hheld, hleft⟩ := List.append_eq_nil_iff.mp ((owed_eq _ _).symm.trans hnothing)
      exact ⟨id, event, hmem, rfl, hid.symm, hheld, hleft⟩
    | given event => exact absurd hperm.symm.eq_nil (List.cons_ne_nil _ _)
  · rw [(h.others _ hbegun).2] at hperm
    exact absurd hperm.symm.eq_nil (List.cons_ne_nil _ _)

/-- When a lease is given back by whoever owed it, all is done for its call. -/
lemma GivesBack.givenBack {client : EventsClient E} {lease : Nat × String} {rest : CallWorld E L}
    {id : String} {event : Event} (h : GivesBack client rest lease w')
    (hasked : rest.asked lease.1 = [.opened id (.ok event)]) (hid : event.id = lease.2)
    (hheld : rest.held lease.1 = []) (hleft : rest.left lease.1 = []) :
    w'.GivenBack lease.1 id event where
  asked := by rw [asked_of_append h.requests, if_pos rfl, hasked, hid, List.singleton_append]
  held := by rw [held, h.waiting, ← held, hheld]
  left := by rw [left, h.tasks, ← left, hleft]

/-- A call that ends gives its lease back, or leaves it to one task. -/
lemma ClosesOnce.ends (h : w.ClosesOnce) {call : Call} {rest : List Call}
    (hcall : w.waiting.Perm (call :: rest))
    (hends : Ends clients { w with waiting := rest } call w') :
    ∃ id event, (call.number, id) ∈ w.begun ∧
      (w'.GivenBack call.number id event ∨ w'.LeftToTask call.number id event) := by
  obtain ⟨id, event, hmem, hasked, hid, hheld, hleft⟩ := h.of_owed (obligations_of_perm hcall)
  refine ⟨id, event, hmem, ?_⟩
  cases hends.givesUp with
  | givesBack hback => exact .inl (hback.givenBack hasked hid hheld hleft)
  | leaves hnothing hwaiting htasks =>
    refine .inr ⟨?_, ?_, ?_⟩
    · rw [asked, hnothing.requests]
      exact hasked
    · rw [held, hwaiting]
      exact hheld
    · have hone : ([call.holds].filter fun o => o.1 = call.number).map Prod.snd = [event.id] := by
        simp [Call.holds, hid]
      rw [left, htasks, List.filter_append, List.map_append, hone]
      exact congrArg (· ++ [event.id]) hleft

/-- A task gives back the lease that was left to it. -/
lemma ClosesOnce.runs (h : w.ClosesOnce) {task : Nat × String} {rest : List (Nat × String)}
    (htask : w.tasks.Perm (task :: rest)) : ∃ id event, (task.1, id) ∈ w.begun ∧
      ({ w with tasks := rest }.closes clients task).GivenBack task.1 id event := by
  have howed : w.obligations.Perm
      (task :: ({ w with tasks := rest } : CallWorld E L).obligations) :=
    (htask.append_left _).trans List.perm_middle
  obtain ⟨id, event, hmem, hasked, hid, hheld, hleft⟩ := h.of_owed howed
  exact ⟨id, event, hmem, (closes_givesBack clients _ task).givenBack hasked hid hheld hleft⟩

/-- A call that neither waits nor has left a task got no lease, or has given it back. -/
lemma ClosesOnce.finished (h : w.ClosesOnce) {number : Nat} {id : String}
    (hmem : (number, id) ∈ w.begun) (hheld : w.held number = []) (hleft : w.left number = []) :
    (∃ e, w.asked number = [.opened id (.error e)]) ∨ ∃ event, w.GivenBack number id event := by
  have hcourse := h.begun number id hmem
  rw [owed_eq, hheld, hleft, List.append_nil] at hcourse
  generalize hasked : w.asked number = requests at hcourse ⊢
  cases hcourse with
  | refused e => exact .inl ⟨e, rfl⟩
  | given event => exact .inr ⟨event, hasked, hheld, hleft⟩

lemma IsSettled.held (h : w.IsSettled) (number : Nat) : w.held number = [] := by
  simp [CallWorld.held, h.1]

lemma IsSettled.left (h : w.IsSettled) (number : Nat) : w.left number = [] := by
  simp [CallWorld.left, h.2]

/-- Events are stored while nobody has a lease on them. -/
def Inserts (store after : EventStore) : Prop :=
  ∃ event : Event, store.leases event.id = 0 ∧ after = store.insert event

/-- The counts of a store are those of the beginning and what is owed. -/
structure Counts (initial : EventStore) (w : CallWorld EventStore L) : Prop where
  consistent : w.inner.IsConsistent
  leases : ∀ id, w.inner.leases id =
    initial.leases id + (w.obligations.map Prod.snd).count id

variable {initial : EventStore} {v v' : CallWorld EventStore L}

lemma Counts.of_idle (h : v.IsIdle) (hreachable : v.inner.Reachable) : v.Counts v.inner where
  consistent := hreachable.isConsistent
  leases id := by simp [obligations, h.waiting, h.tasks]

lemma count_of_cons {number : Nat} {key : String} {o o' : List (Nat × String)}
    (h : o.Perm ((number, key) :: o')) (id : String) :
    (o.map Prod.snd).count id = (o'.map Prod.snd).count id + if id = key then 1 else 0 := by
  rw [(h.map Prod.snd).count_eq, List.map_cons, List.count_cons]
  by_cases hid : id = key
  · simp [hid]
  · simp [hid, Ne.symm hid]

lemma Counts.effect (h : v.Counts initial) (heffect : Effect EventStore.client Inserts v v') :
    v'.Counts initial := by
  cases heffect with
  | keeps inner requests begun owed =>
    have hcount (id : String) := (owed.map Prod.snd).count_eq id
    rcases inner with hsame | ⟨event, hfree, hinsert⟩
    · exact ⟨hsame ▸ h.consistent, fun id => by rw [hsame, h.leases, hcount]⟩
    · refine ⟨hinsert ▸ h.consistent.insert event, fun id => ?_⟩
      rw [hinsert, EventStore.leases_insert hfree, h.leases, hcount]
  | opens number id event hnew inner requests begun owed =>
    rw [EventStore.client_openEvent] at inner
    obtain ⟨hinner, hevent⟩ := Prod.mk.inj inner
    have hid : event.id = id := by
      rw [← Except.ok.inj hevent]
      exact h.consistent.id_lease id
    rw [hid] at owed
    refine ⟨hinner ▸ h.consistent.lease id, fun key => ?_⟩
    rw [← hinner, EventStore.leases_lease, h.leases, count_of_cons owed, Nat.add_assoc]
  | fails number id e hnew inner requests begun owed =>
    rw [EventStore.client_openEvent] at inner
    exact absurd (Prod.mk.inj inner).2 (by simp)
  | closes number id inner requests begun owed =>
    have hcount := count_of_cons owed
    have hleased : 0 < v.inner.leases id := by
      rw [h.leases, hcount, if_pos rfl]
      omega
    obtain ⟨after, hclose⟩ := EventStore.exists_close hleased
    have hafter : v'.inner = after := by rw [inner, EventStore.client_closeEvent hclose]
    refine ⟨hafter ▸ h.consistent.close hclose, fun key => ?_⟩
    have hkey := EventStore.leases_close hclose key
    rw [h.leases, hcount] at hkey
    rw [hafter]
    omega

theorem Counts.steps {lifecycle : LifecycleClient L} (h : v.Counts initial)
    (hsteps : Steps ⟨EventStore.client, lifecycle⟩ Inserts v v') : v'.Counts initial := by
  induction hsteps with
  | refl => exact h
  | tail _ hstep ih => exact ih.effect hstep.effect

/-- What holds of the leases in a world that calls have reached. -/
structure GivesEachBack (clients : Clients E L) (w : CallWorld E L) : Prop where
  /-- Each call asks for its event once, and gives the lease it got back at most once. -/
  once : w.ClosesOnce
  /-- A call that neither waits nor has left a task got no lease, or has given it back. -/
  finished : ∀ number id, (number, id) ∈ w.begun → w.held number = [] → w.left number = [] →
    (∃ e, w.asked number = [.opened id (.error e)]) ∨ ∃ event, w.GivenBack number id event
  /-- A call whose processor returns or panics, and one that is broken off, waits no more; it has
  given its lease back, or has left it to one task. -/
  ends : ∀ call rest w', w.waiting.Perm (call :: rest) →
    Ends clients { w with waiting := rest } call w' → w'.waiting = rest ∧
      ∃ id event, (call.number, id) ∈ w.begun ∧
        (w'.GivenBack call.number id event ∨ w'.LeftToTask call.number id event)
  /-- A call whose processor only sleeps, or waits for ever, waits on with its lease. -/
  waits : ∀ (call : Call) rest behaviour, w.waiting.Perm (call :: rest) →
    ¬ (call.work clients.watched (w.asking call.number) behaviour).halt.IsOver →
      WaitsOn { w with waiting := rest } call
        ({ w with waiting := rest }.goesOn clients call behaviour)
  /-- A task gives back the lease that was left to it. -/
  runs : ∀ task rest, w.tasks.Perm (task :: rest) → ∃ id event, (task.1, id) ∈ w.begun ∧
    ({ w with tasks := rest }.closes clients task).GivenBack task.1 id event
  /-- However calls end and tasks are run, this comes to an end, -/
  finite : Acc (fun w' w => Winds clients w w') w
  /-- and then every lease has been given back. -/
  settles : ∀ w', Relation.ReflTransGen (Winds clients) w w' → (∀ w'', ¬ Winds clients w' w'') →
    w'.IsSettled ∧ ∀ number id, (number, id) ∈ w.begun →
      (∃ e, w'.asked number = [.opened id (.error e)]) ∨ ∃ event, w'.GivenBack number id event

lemma ClosesOnce.winds (h : w.ClosesOnce) (hwinds : Relation.ReflTransGen (Winds clients) w w') :
    w'.ClosesOnce ∧ w'.begun = w.begun := by
  induction hwinds with
  | refl => exact ⟨h, rfl⟩
  | tail _ hlast ih =>
    have hstep : Step clients (fun _ _ => False) _ _ := hlast.step
    exact ⟨ih.1.effect hstep.effect, hlast.begun.trans ih.2⟩

lemma ClosesOnce.givesEachBack (clients : Clients E L) (h : w.ClosesOnce) :
    w.GivesEachBack clients where
  once := h
  finished _ _ := h.finished
  ends call rest w' hcall hends := ⟨hends.givesUp.waiting_eq, h.ends hcall hends⟩
  waits call rest behaviour hcall hover := waitsOn_goesOn hover
  runs task rest htask := h.runs htask
  finite := (wellFounded_winds clients).apply w
  settles w' hwinds hlast := by
    obtain ⟨honce, hbegun⟩ := h.winds hwinds
    have hsettled := isSettled_of_not_winds hlast
    exact ⟨hsettled, fun number id hmem =>
      honce.finished (hbegun ▸ hmem) (hsettled.held number) (hsettled.left number)⟩

/-- Each call asks for its event once and gives the lease it got back once, by itself or by a
task, whenever and however it ends; and a store whose calls have ended counts the leases that it
counted before. -/
theorem every_lease_given_back (lifecycle : LifecycleClient L) :
    (∀ (client : EventsClient E) (others : E → E → Prop) (w₀ w : CallWorld E L), w₀.IsIdle →
      Steps ⟨client, lifecycle⟩ others w₀ w → w.GivesEachBack ⟨client, lifecycle⟩ ∧
        ∀ (r : ProcessorRunner) number feeds request, number ∉ w.begun.map Prod.fst →
          Steps ⟨client, lifecycle⟩ others w₀
              (w.begins ⟨client, lifecycle⟩ r number feeds request) ∧
            OpensThenGoesOn ⟨client, lifecycle⟩ w r number feeds request
              (w.begins ⟨client, lifecycle⟩ r number feeds request)) ∧
    ∀ w₀ w : CallWorld EventStore L, w₀.IsIdle → w₀.inner.Reachable →
      Steps ⟨EventStore.client, lifecycle⟩ Inserts w₀ w → w.IsSettled →
        ∀ id, w.inner.leases id = w₀.inner.leases id := by
  constructor
  · intro client others w₀ w hidle hsteps
    have honce := (ClosesOnce.of_idle hidle).steps hsteps
    exact ⟨honce.givesEachBack _, fun r number feeds request hnew =>
      ⟨hsteps.trans (begins_steps w r hnew feeds request),
        opensThenGoesOn_begins _ w r number feeds request⟩⟩
  · intro w₀ w hidle hreachable hsteps hsettled id
    have hcounts := (Counts.of_idle hidle hreachable).steps hsteps
    have hleases := hcounts.leases id
    rw [obligations, hsettled.1, hsettled.2] at hleases
    exact hleases

def idle (events : E) (lifecycle : L) (timing : Collector) : CallWorld E L where
  host := .fresh ⟨events, 0, []⟩ lifecycle timing
  waiting := []
  tasks := []
  begun := []
  noOrphans := rfl

def quiet : Collector :=
  ⟨⟨1, none, .empty, .created, [], [], [], false, false, 0⟩, 0, true⟩

/-- A runner whose processor does the same for every event. -/
def always (work : Behaviour (Except Cause Json.Members)) : ProcessorRunner :=
  ⟨⟨"always", fun _ _ _ => work⟩, ⟨"always"⟩, ⟨"always", .manual⟩, ⟨"always", "always"⟩⟩

/-- Four calls are begun, three of them for one event. The first leaves a context entered and waits;
then one returns, one fails and one panics. -/
def crossed : CallWorld EventStore Lifecycle :=
  let clients : Clients EventStore Lifecycle := ⟨EventStore.client, Lifecycle.client⟩
  let lingering := Behaviour.act (.enter 0 "left") fun _ =>
    .act (.forget ⟨0, 1, "left"⟩) fun _ => .sleep 5 .pend
  let first := (idle .empty .empty quiet).begins clients (always lingering) 1 false ⟨"e", []⟩
  let second := first.begins clients (always (.returns (.ok []))) 2 false ⟨"e", []⟩
  let third := second.begins clients (always (.returns (.error (.of "no")))) 3 false ⟨"f", []⟩
  third.begins clients (always (.panics "no more")) 4 false ⟨"e", []⟩

lemma crossed_steps : Steps ⟨EventStore.client, Lifecycle.client⟩ Inserts
    (idle .empty .empty quiet) crossed :=
  (((begins_steps _ _ (by decide) _ _).trans (begins_steps _ _ (by decide) _ _)).trans
    (begins_steps _ _ (by decide) _ _)).trans (begins_steps _ _ (by decide) _ _)

/-- The call that waits is broken off, which is a panic, and the tasks are run in another order. -/
theorem crossing_leases_given_back : ∃ w : CallWorld EventStore Lifecycle,
    Steps ⟨EventStore.client, Lifecycle.client⟩ Inserts (idle .empty .empty quiet) w ∧
    w.requests = [(1, .opened "e" (.ok ⟨"e", []⟩)), (2, .opened "e" (.ok ⟨"e", []⟩)),
      (2, .closed "e"), (3, .opened "f" (.ok ⟨"f", []⟩)), (3, .closed "f"),
      (4, .opened "e" (.ok ⟨"e", []⟩)), (1, .closed "e"), (4, .closed "e")] ∧
    w.IsSettled ∧ w.GivesEachBack ⟨EventStore.client, Lifecycle.client⟩ ∧
    ∀ id, w.inner.leases id = EventStore.empty.leases id := by
  have hsteps := ((crossed_steps.tail (.breaksOff (List.Perm.refl _))).tail
    (.closes (List.Perm.swap _ _ _))).tail (.closes (List.Perm.refl _))
  have hidle : (idle EventStore.empty Lifecycle.empty quiet).IsIdle := ⟨rfl, rfl, rfl, rfl⟩
  obtain ⟨hreached, hback⟩ := every_lease_given_back Lifecycle.client
  exact ⟨_, hsteps, rfl, ⟨rfl, rfl⟩, (hreached EventStore.client Inserts _ _ hidle hsteps).1,
    hback _ _ hidle .empty hsteps ⟨rfl, rfl⟩⟩

end CallWorld

end ProcessorHost
