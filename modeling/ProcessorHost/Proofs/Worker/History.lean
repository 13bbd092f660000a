import Mathlib.Tactic.Common
import ProcessorHost.Worker.Worker

/-!
# Histories of workers

A history keeps, beside a worker, the tasks that were accepted and the deeds of the worker: the
calls it has made of its runnable, in order. Senders and the worker take steps in any order and
at any times. Each step is a move of the worker with at most one deed, accepts one task, or
leaves the work as it is.
-/

namespace ProcessorHost

variable {σ τ : Type}

/-- A call that a worker made of its runnable. -/
inductive Deed (τ : Type)
  | ran (task : τ)
  | panicked (task : τ)
  | ticked
  | tickPanicked
  /-- The hook at the end was called, whether or not it panicked. -/
  | shutDown
deriving DecidableEq, Repr

namespace Deed

def task? : Deed τ → Option τ
  | ran task => some task
  | panicked task => some task
  | _ => none

/-- Whether a task or a tick panicked. -/
def isPanic : Deed τ → Bool
  | panicked _ => true
  | tickPanicked => true
  | _ => false

/-- Whether no call may follow. -/
def isLast : Deed τ → Bool
  | shutDown => true
  | deed => deed.isPanic

def tasks (deeds : List (Deed τ)) : List τ := deeds.filterMap task?

lemma tasks_append (deeds deeds' : List (Deed τ)) :
    tasks (deeds ++ deeds') = tasks deeds ++ tasks deeds' := List.filterMap_append

lemma tasks_of_none {deed : Deed τ} (h : deed.task? = none) (deeds : List (Deed τ)) :
    tasks (deeds ++ [deed]) = tasks deeds := by
  have hnone : tasks [deed] = [] := List.filterMap_cons_none h
  rw [tasks_append, hnone, List.append_nil]

lemma isPanic_of_not_last {deed : Deed τ} (h : deed.isLast = false) : deed.isPanic = false := by
  cases deed with
  | shutDown => rfl
  | ran task => exact h
  | panicked task => exact h
  | ticked => exact h
  | tickPanicked => exact h

lemma eq_shutDown {deed : Deed τ} (hlast : deed.isLast = true) (hcalm : deed.isPanic = false) :
    deed = .shutDown := by
  cases deed with
  | shutDown => rfl
  | ran task => cases hlast
  | panicked task => cases hcalm
  | ticked => cases hlast
  | tickPanicked => cases hcalm

end Deed

/-- What a runnable comes to by some calls, one after the other. -/
inductive Runnable.Performed (r : Runnable σ τ) (s₀ : σ) : List (Deed τ) → σ → Prop
  | start : Performed r s₀ [] s₀
  | ran {deeds : List (Deed τ)} {s s' : σ} {task : τ} (h : Performed r s₀ deeds s)
      (hrun : r.run s task = .ok s') : Performed r s₀ (deeds ++ [.ran task]) s'
  | panicked {deeds : List (Deed τ)} {s s' : σ} {task : τ} (h : Performed r s₀ deeds s)
      (hrun : r.run s task = .error s') : Performed r s₀ (deeds ++ [.panicked task]) s'
  | ticked {deeds : List (Deed τ)} {s s' : σ} (h : Performed r s₀ deeds s)
      (htick : r.tick s = .ok s') : Performed r s₀ (deeds ++ [.ticked]) s'
  | tickPanicked {deeds : List (Deed τ)} {s s' : σ} (h : Performed r s₀ deeds s)
      (htick : r.tick s = .error s') : Performed r s₀ (deeds ++ [.tickPanicked]) s'
  | shutDown {deeds : List (Deed τ)} {s s' : σ} (h : Performed r s₀ deeds s)
      (hhook : r.shutdown s = .ok s' ∨ r.shutdown s = .error s') :
      Performed r s₀ (deeds ++ [.shutDown]) s'

def WorkerPhase.inHand : WorkerPhase τ → List τ
  | running task _ _ => [task]
  | _ => []

/-- Whether the worker has seen the order to stop, or is done. -/
def WorkerPhase.isClosing : WorkerPhase τ → Bool
  | running _ _ stopping => stopping
  | draining => true
  | ended => true
  | crashed => true
  | _ => false

namespace Worker

/-- What a move of a worker calls of the runnable. -/
def deed? (r : Runnable σ τ) (w : Worker σ τ) : WorkerMove → Option (Deed τ)
  | .finish =>
    match w.phase with
    | .running task _ _ =>
      match r.run w.state task with
      | .ok _ => some (.ran task)
      | .error _ => some (.panicked task)
    | _ => none
  | .tick =>
    match r.tick w.state with
    | .ok _ => some .ticked
    | .error _ => some .tickPanicked
  | .windUp => some .shutDown
  | _ => none

/-- What a worker may do by itself. -/
inductive Moves (r : Runnable σ τ) (w : Worker σ τ) : Option (Deed τ) → Worker σ τ → Prop
  | breaksDown (hphase : w.phase = .created) (hperiod : w.period = some 0) :
      Moves r w none (w.crash w.state)
  | begins (nextTick : Nat) (hphase : w.phase = .created) (hperiod : w.period ≠ some 0) :
      Moves r w none { w with phase := .waiting, nextTick }
  | takes (task : τ) (rest : List τ) (ends : Nat) (waiting granted : List Nat)
      (hphase : w.phase = .waiting) (hqueue : w.queue = task :: rest)
      (hgranted : granted.length ≤ w.granted.length + 1) :
      Moves r w none { w with phase := .running task ends false, queue := rest, waiting, granted }
  | takesLate (task : τ) (rest : List τ) (ends : Nat) (hphase : w.phase = .draining)
      (hqueue : w.queue = task :: rest) :
      Moves r w none { w with phase := .running task ends true, queue := rest }
  | runs (task : τ) (ends : Nat) (stopping : Bool) (state : σ)
      (hphase : w.phase = .running task ends stopping) (hrun : r.run w.state task = .ok state) :
      Moves r w (some (.ran task))
        { w with state, phase := if stopping then .draining else .waiting }
  | panics (task : τ) (ends : Nat) (stopping : Bool) (state : σ)
      (hphase : w.phase = .running task ends stopping)
      (hrun : r.run w.state task = .error state) :
      Moves r w (some (.panicked task)) (w.crash state)
  | ticks (nextTick : Nat) (state : σ) (hphase : w.phase = .waiting)
      (htick : r.tick w.state = .ok state) : Moves r w (some .ticked) { w with state, nextTick }
  | tickPanics (state : σ) (hphase : w.phase = .waiting) (htick : r.tick w.state = .error state) :
      Moves r w (some .tickPanicked) (w.crash state)
  | stops (hphase : w.phase = .waiting) (hasked : w.stopAsked = true) :
      Moves r w none { w with phase := .draining, closed := true }
  | windsUp (state : σ) (hphase : w.phase = .draining) (hqueue : w.queue = [])
      (hhook : r.shutdown w.state = .ok state) :
      Moves r w (some .shutDown) { w with state, phase := .ended }
  | windUpPanics (state : σ) (hphase : w.phase = .draining) (hqueue : w.queue = [])
      (hhook : r.shutdown w.state = .error state) : Moves r w (some .shutDown) (w.crash state)

lemma Moves.not_over {r : Runnable σ τ} {w w' : Worker σ τ} {deed : Option (Deed τ)}
    (h : w.Moves r deed w') : w.isOver = false := by
  unfold isOver
  cases h with
  | breaksDown hphase | begins _ hphase | takes _ _ _ _ _ hphase | takesLate _ _ _ hphase
  | runs _ _ _ _ hphase | panics _ _ _ _ hphase | ticks _ _ hphase | tickPanics _ hphase
  | stops hphase | windsUp _ hphase | windUpPanics _ hphase => rw [hphase]

lemma granted_release (w : Worker σ τ) : w.release.granted.length ≤ w.granted.length + 1 := by
  unfold release
  split
  · exact Nat.le_succ _
  · simp

lemma release_eq (w : Worker σ τ) :
    w.release = { w with waiting := w.release.waiting, granted := w.release.granted } := by
  unfold release
  split
  · rfl
  · rfl

lemma moves_of_move? {r : Runnable σ τ} {now : Nat} {w w' : Worker σ τ} {move : WorkerMove}
    (h : w.move? r now move = some w') : w.Moves r (w.deed? r move) w' := by
  obtain ⟨capacity, period, state, phase, queue, waiting, granted, closed, stopAsked, nextTick⟩ := w
  unfold move? at h
  unfold deed?
  dsimp only at h ⊢
  cases move with
  | setUp =>
    cases phase with
    | created =>
      match period, h with
      | none, rfl => exact .begins _ rfl (by simp)
      | some 0, rfl => exact .breaksDown rfl rfl
      | some (p + 1), rfl => exact .begins _ rfl (by simp)
    | _ => cases h
  | take =>
    match phase, queue, h with
    | .waiting, task :: rest, h =>
      rw [← Option.some.inj h, release_eq]
      exact .takes task rest _ _ _ rfl rfl (granted_release _)
    | .draining, task :: rest, rfl => exact .takesLate task rest _ rfl rfl
  | finish =>
    cases phase with
    | running task ends stopping =>
      dsimp only at h ⊢
      split at h
      · cases hrun : r.run state task with
        | ok after =>
          rw [hrun] at h
          cases h
          exact .runs task ends stopping after rfl hrun
        | error after =>
          rw [hrun] at h
          cases h
          exact .panics task ends stopping after rfl hrun
      · cases h
    | _ => cases h
  | tick =>
    match phase, period, h with
    | .waiting, some p, h =>
      dsimp only at h
      split at h
      · cases htick : r.tick state with
        | ok after =>
          rw [htick] at h
          cases h
          exact .ticks _ after rfl htick
        | error after =>
          rw [htick] at h
          cases h
          exact .tickPanics after rfl htick
      · cases h
  | stop =>
    cases phase with
    | waiting =>
      dsimp only at h
      split at h
      · rename_i hasked
        cases h
        exact .stops rfl hasked
      · cases h
    | _ => cases h
  | windUp =>
    match phase, queue, granted, h with
    | .draining, [], [], h =>
      cases hhook : r.shutdown state with
      | ok after =>
        rw [hhook] at h
        cases h
        exact .windsUp after rfl rfl hhook
      | error after =>
        rw [hhook] at h
        cases h
        exact .windUpPanics after rfl rfl hhook

/-- The work of a worker is the same; at most some slots are no longer kept. -/
structure SameWork (w w' : Worker σ τ) : Prop where
  capacity : w'.capacity = w.capacity
  period : w'.period = w.period
  state : w'.state = w.state
  phase : w'.phase = w.phase
  queue : w'.queue = w.queue
  closed : w'.closed = w.closed
  granted : w'.granted.length ≤ w.granted.length

lemma SameWork.refl (w : Worker σ τ) : w.SameWork w := ⟨rfl, rfl, rfl, rfl, rfl, rfl, Nat.le_refl _⟩

lemma abandon_same (w : Worker σ τ) (ticket : Nat) : w.SameWork (w.abandon ticket) := by
  unfold abandon
  split
  · rename_i hmem
    have hlength := granted_release { w with granted := w.granted.erase ticket }
    have hpos := List.length_pos_of_mem hmem
    rw [List.length_erase_of_mem hmem] at hlength
    rw [release_eq] at hlength ⊢
    exact ⟨rfl, rfl, rfl, rfl, rfl, rfl, by dsimp only at hlength ⊢; omega⟩
  · exact ⟨rfl, rfl, rfl, rfl, rfl, rfl, Nat.le_refl _⟩

/-- What a submitter may make of a worker. -/
inductive Admits (w : Worker σ τ) : Option τ → Worker σ τ → Prop
  | same {w' : Worker σ τ} (h : w.SameWork w') : Admits w none w'
  | accepts (task : τ) (granted : List Nat) (hopen : w.closed = false)
      (hslots : w.queue.length + w.granted.length ≤ w.capacity →
        w.queue.length + 1 + granted.length ≤ w.capacity) :
      Admits w (some task) { w with queue := w.queue ++ [task], granted }

lemma room_pos {w : Worker σ τ} (h : w.room ≠ 0) :
    w.queue.length + 1 + w.granted.length ≤ w.capacity := by
  unfold room at h
  omega

lemma trySubmit_cases (w : Worker σ τ) (task : τ) :
    (∃ w', w.trySubmit task = .ok w' ∧ w.Admits (some task) w') ∨
      w.trySubmit task = .error (.full task) ∨ w.trySubmit task = .error (.closed task) := by
  unfold trySubmit
  split
  · exact .inr (.inr rfl)
  · rename_i hopen
    split
    · exact .inr (.inl rfl)
    · rename_i hroom
      rw [Bool.not_eq_true] at hopen
      exact .inl ⟨_, rfl, .accepts task w.granted hopen fun _ => room_pos hroom⟩

def Submission.accepts (task : τ) : Submission → Option τ
  | .accepted => some task
  | _ => none

lemma submit_admits (w : Worker σ τ) (ticket : Nat) (task : τ) :
    w.Admits ((w.submit ticket task).2.accepts task) (w.submit ticket task).1 := by
  unfold submit
  split
  · exact .same (SameWork.refl w)
  · rename_i hopen
    split
    · exact .same ⟨rfl, rfl, rfl, rfl, rfl, rfl, Nat.le_refl _⟩
    · rename_i hroom
      rw [Bool.not_eq_true] at hopen
      exact .accepts task w.granted hopen fun _ => room_pos hroom

lemma resume_admits (w : Worker σ τ) (ticket : Nat) (task : τ) :
    w.Admits ((w.resume ticket task).2.accepts task) (w.resume ticket task).1 := by
  unfold resume
  split
  · exact .same ⟨rfl, rfl, rfl, rfl, rfl, rfl, List.length_erase_le⟩
  · rename_i hopen
    split
    · rename_i hmem
      rw [Bool.not_eq_true] at hopen
      refine .accepts task (w.granted.erase ticket) hopen fun hslots => ?_
      have hpos := List.length_pos_of_mem hmem
      rw [List.length_erase_of_mem hmem]
      omega
    · exact .same (SameWork.refl w)

end Worker

/-- What may happen to a worker: it moves, or a submitter does something, or it is told to stop
or given up. -/
inductive WorkerStep (τ : Type)
  | move (move : WorkerMove) (now : Nat)
  | trySubmit (task : τ)
  | submit (ticket : Nat) (task : τ)
  | resume (ticket : Nat) (task : τ)
  | abandon (ticket : Nat)
  | askStop
deriving DecidableEq, Repr

structure WorkerHistory (σ τ : Type) where
  worker : Worker σ τ
  /-- In the order of acceptance. -/
  accepted : List τ
  deeds : List (Deed τ)

namespace WorkerHistory

def of (worker : Worker σ τ) : WorkerHistory σ τ := ⟨worker, [], []⟩

/-- The history after one step; a move that is not possible is no step. -/
def next (r : Runnable σ τ) (h : WorkerHistory σ τ) : WorkerStep τ → WorkerHistory σ τ
  | .move move now =>
    match h.worker.move? r now move with
    | some worker => { h with worker, deeds := h.deeds ++ (h.worker.deed? r move).toList }
    | none => h
  | .trySubmit task =>
    match h.worker.trySubmit task with
    | .ok worker => { h with worker, accepted := h.accepted ++ [task] }
    | .error _ => h
  | .submit ticket task =>
    let (worker, submission) := h.worker.submit ticket task
    { h with worker, accepted := h.accepted ++ (submission.accepts task).toList }
  | .resume ticket task =>
    let (worker, submission) := h.worker.resume ticket task
    { h with worker, accepted := h.accepted ++ (submission.accepts task).toList }
  | .abandon ticket => { h with worker := h.worker.abandon ticket }
  | .askStop => { h with worker := h.worker.askStop }

def after (r : Runnable σ τ) (h : WorkerHistory σ τ) (steps : List (WorkerStep τ)) :
    WorkerHistory σ τ := steps.foldl (next r) h

/-- What a step may be for the work. -/
inductive Effect (r : Runnable σ τ) (h h' : WorkerHistory σ τ) : Prop
  | moves {deed : Option (Deed τ)} (hmove : h.worker.Moves r deed h'.worker)
      (accepted : h'.accepted = h.accepted) (deeds : h'.deeds = h.deeds ++ deed.toList)
  | admits {task : Option τ} (hadmits : h.worker.Admits task h'.worker)
      (accepted : h'.accepted = h.accepted ++ task.toList) (deeds : h'.deeds = h.deeds)

/-- Every step is a move or leaves the deeds as they are. -/
theorem next_effect (r : Runnable σ τ) (h : WorkerHistory σ τ) (step : WorkerStep τ) :
    Effect r h (h.next r step) := by
  have hsame : Effect r h h :=
    .admits (.same (Worker.SameWork.refl _)) (List.append_nil _).symm rfl
  cases step with
  | move move now =>
    unfold next
    dsimp only
    split
    · rename_i worker heq
      exact .moves (Worker.moves_of_move? heq) rfl rfl
    · exact hsame
  | trySubmit task =>
    unfold next
    dsimp only
    rcases h.worker.trySubmit_cases task with ⟨w', heq, hadmits⟩ | heq | heq
    · rw [heq]
      exact .admits hadmits rfl rfl
    · rw [heq]
      exact hsame
    · rw [heq]
      exact hsame
  | submit ticket task => exact .admits (Worker.submit_admits _ _ _) rfl rfl
  | resume ticket task => exact .admits (Worker.resume_admits _ _ _) rfl rfl
  | abandon ticket => exact .admits (.same (Worker.abandon_same _ _)) (List.append_nil _).symm rfl
  | askStop =>
    exact .admits (.same ⟨rfl, rfl, rfl, rfl, rfl, rfl, Nat.le_refl _⟩)
      (List.append_nil _).symm rfl

end WorkerHistory

end ProcessorHost
