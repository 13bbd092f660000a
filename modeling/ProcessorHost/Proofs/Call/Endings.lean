import ProcessorHost.Proofs.Call.CallWorld
import ProcessorHost.Proofs.Call.Stretches

/-!
# How calls end

A call ends when its processor returns or panics, or when it is broken off while it waits. From then
on it does not wait any more, and its lease has been given back or is left to one task. However
calls end and tasks are run, and in whatever order, this comes to an end itself, and then no call
waits and no task is left.
-/

namespace ProcessorHost

variable {α E L : Type}

/-- A behaviour that stops like this does not go on. -/
def Halt.IsOver : Halt α → Prop
  | .returned _ => True
  | .panicked _ => True
  | .sleeping .. => False
  | .pending => False

namespace Call

variable {clients : Clients E L} {host : Host E L} {call : Call}
  {behaviour : Behaviour (Except Cause Json.Members)}

/-- A call ends with its processor. -/
lemma exists_ended (h : (call.work clients host behaviour).halt.IsOver) :
    ∃ session outcome, (call.goOn clients host behaviour).2 = .ended session outcome := by
  rw [goOn_eq]
  unfold Stop.finish
  cases hhalt : (call.work clients host behaviour).halt with
  | returned result => exact returned_ended _ _ _ _
  | panicked message => exact panics_ended _ _ _
  | sleeping ms rest => exact (hhalt ▸ h : Halt.IsOver (.sleeping ms rest)).elim
  | pending => exact (hhalt ▸ h : Halt.IsOver .pending).elim

lemma exists_waits (h : ¬ (call.work clients host behaviour).halt.IsOver) :
    ∃ after, (call.goOn clients host behaviour).2 = .waits after := by
  rw [goOn_eq]
  unfold Stop.finish
  cases hhalt : (call.work clients host behaviour).halt with
  | returned result => exact (h (hhalt ▸ trivial)).elim
  | panicked message => exact (h (hhalt ▸ trivial)).elim
  | sleeping ms rest => exact ⟨_, rfl⟩
  | pending => exact ⟨_, rfl⟩

end Call

namespace CallWorld

variable {clients : Clients E L} {others : E → E → Prop} {w w' : CallWorld E L} {call : Call}

lemma GivesUp.waiting_eq {client : EventsClient E} (h : GivesUp client w call w') :
    w'.waiting = w.waiting := by
  cases h with
  | givesBack h => exact h.waiting
  | leaves _ waiting _ => exact waiting

lemma GivesUp.begun_eq {client : EventsClient E} (h : GivesUp client w call w') :
    w'.begun = w.begun := by
  cases h with
  | givesBack h => exact h.begun
  | leaves h _ _ => exact h.begun

lemma GivesUp.length_tasks_le {client : EventsClient E} (h : GivesUp client w call w') :
    w'.tasks.length ≤ w.tasks.length + 1 := by
  cases h with
  | givesBack h => exact h.tasks ▸ Nat.le_succ _
  | leaves _ _ tasks => simp [tasks]

/-- A call that is not among the waiting any more has come to its end. -/
inductive Ends (clients : Clients E L) (w : CallWorld E L) (call : Call) : CallWorld E L → Prop
  /-- Its processor has returned or panicked. -/
  | stops (behaviour : Behaviour (Except Cause Json.Members))
      (hover : (call.work clients.watched (w.asking call.number) behaviour).halt.IsOver) :
      Ends clients w call (w.goesOn clients call behaviour)
  | brokenOff : Ends clients w call (w.breaksOff clients call)

/-- A call that ends gives up its lease. -/
theorem Ends.givesUp (h : Ends clients w call w') : GivesUp clients.events w call w' := by
  cases h with
  | stops behaviour hover =>
    obtain ⟨session, outcome, hended⟩ := Call.exists_ended hover
    exact (goesOn_cases clients w call behaviour).2 session outcome hended
  | brokenOff => exact breaksOff_givesUp clients w call

/-- A call whose processor has stopped for some time keeps its lease. -/
theorem waitsOn_goesOn {behaviour : Behaviour (Except Cause Json.Members)}
    (hover : ¬ (call.work clients.watched (w.asking call.number) behaviour).halt.IsOver) :
    WaitsOn w call (w.goesOn clients call behaviour) := by
  obtain ⟨after, hwaits⟩ := Call.exists_waits hover
  exact (goesOn_cases clients w call behaviour).1 after hwaits

/-- One of the waiting calls ends, or one of the tasks is run. -/
inductive Winds (clients : Clients E L) (w : CallWorld E L) : CallWorld E L → Prop
  | ends {call : Call} {rest : List Call} {w' : CallWorld E L}
      (hcall : w.waiting.Perm (call :: rest))
      (h : Ends clients { w with waiting := rest } call w') : Winds clients w w'
  | closes {task : Nat × String} {rest : List (Nat × String)}
      (htask : w.tasks.Perm (task :: rest)) :
      Winds clients w ({ w with tasks := rest }.closes clients task)

lemma Winds.step (h : Winds clients w w') : Step clients others w w' := by
  cases h with
  | ends hcall h =>
    cases h with
    | stops behaviour hover => exact .goesOn hcall behaviour
    | brokenOff => exact .breaksOff hcall
  | closes htask => exact .closes htask

lemma Winds.begun (h : Winds clients w w') : w'.begun = w.begun := by
  cases h with
  | ends hcall h => exact h.givesUp.begun_eq
  | @closes task rest htask => exact (closes_givesBack clients { w with tasks := rest } task).begun

/-- The steps that are still to come: a waiting call may end, and may leave a task. -/
def pending (w : CallWorld E L) : Nat := 2 * w.waiting.length + w.tasks.length

lemma Winds.pending_lt (h : Winds clients w w') : w'.pending < w.pending := by
  unfold pending
  cases h with
  | ends hcall h =>
    have hwaiting := hcall.length_eq
    have htasks := h.givesUp.length_tasks_le
    rw [List.length_cons] at hwaiting
    rw [h.givesUp.waiting_eq, hwaiting]
    dsimp only at htasks ⊢
    omega
  | @closes task rest htask =>
    have htasks := htask.length_eq
    have hback := closes_givesBack clients { w with tasks := rest } task
    rw [List.length_cons] at htasks
    rw [hback.waiting, hback.tasks, htasks]
    dsimp only
    omega

/-- Calls cannot end, and tasks cannot be run, without end. -/
theorem wellFounded_winds (clients : Clients E L) :
    WellFounded fun w' w : CallWorld E L => Winds clients w w' :=
  Subrelation.wf Winds.pending_lt (measure pending).wf

def IsSettled (w : CallWorld E L) : Prop := w.waiting = [] ∧ w.tasks = []

/-- Where no call can end and no task can be run, none is left. -/
theorem isSettled_of_not_winds (h : ∀ w', ¬ Winds clients w w') : w.IsSettled := by
  constructor
  · cases hwaiting : w.waiting with
    | nil => rfl
    | cons call rest => exact (h _ (.ends (.of_eq hwaiting) .brokenOff)).elim
  · cases htasks : w.tasks with
    | nil => rfl
    | cons task rest => exact (h _ (.closes (.of_eq htasks))).elim

end CallWorld

end ProcessorHost
