import Mathlib.Data.List.Nodup
import ProcessorHost.Proofs.Worker.History
import ProcessorHost.Timing.Collector

/-!
# Workers that attend to samples and requests

A worker that is not told to stop, and in whose hand no task panics, only goes on: it takes what is
next in its queue, finishes it, or ticks. Each of these leaves it less to do, and it gives a slot
that has become free to the one who has waited longest.
-/

namespace ProcessorHost

lemma Ledger.replies_of_record {l l' : Ledger} {sample : TimingSample}
    (hrun : l.run (.record sample) = .ok l' ∨ l.run (.record sample) = .error l') :
    l'.replies = l.replies := by
  unfold run at hrun
  dsimp only at hrun
  split at hrun
  · rcases hrun with hrun | hrun
    · cases hrun
      rfl
    · cases hrun
  · rcases hrun with hrun | hrun
    · cases hrun
    · cases hrun
      rfl

namespace Worker

variable {w w' : Worker Ledger TimingTask} {now : Nat}

/-- A slot goes to the one who has waited longest, and to nobody else. -/
lemma release_cases (w : Worker Ledger TimingTask) :
    (w.waiting = [] ∧ w.release = w) ∨
    ∃ ticket rest, w.waiting = ticket :: rest ∧
      w.release = { w with waiting := rest, granted := w.granted ++ [ticket] } := by
  unfold release
  cases hwaiting : w.waiting with
  | nil => exact .inl ⟨rfl, rfl⟩
  | cons ticket rest => exact .inr ⟨ticket, rest, rfl, rfl⟩

lemma release_perm (w : Worker Ledger TimingTask) :
    (w.release.waiting ++ w.release.granted).Perm (w.waiting ++ w.granted) := by
  rcases w.release_cases with ⟨-, heq⟩ | ⟨ticket, rest, hwaiting, heq⟩
  · rw [heq]
  · rw [heq, hwaiting, ← List.append_assoc]
    exact List.perm_append_comm

/-- A request takes the slot that is kept for it. -/
def enqueue (w : Worker Ledger TimingTask) (k : Nat) : Worker Ledger TimingTask :=
  { w with granted := w.granted.erase k, queue := w.queue ++ [.summary k] }

/-- A request is in the worker's hand or in its queue, or has been answered. -/
def Holds (w : Worker Ledger TimingTask) (k : Nat) : Prop :=
  .summary k ∈ w.phase.inHand ++ w.queue ∨ k ∈ w.state.replies.map Prod.fst

lemma holds_enqueue {j : Nat} (k : Nat) (hj : w.Holds j) : (w.enqueue k).Holds j := by
  unfold Holds enqueue
  dsimp only
  rw [← List.append_assoc]
  exact hj.imp_left fun hj => List.mem_append_left _ hj

lemma enqueue_holds (w : Worker Ledger TimingTask) (k : Nat) : (w.enqueue k).Holds k :=
  .inl (List.mem_append_right _ (List.mem_append_right _ List.mem_cons_self))

lemma holds_push {k : Nat} (hk : w.Holds k) (task : TimingTask) :
    ({ w with queue := w.queue ++ [task] } : Worker Ledger TimingTask).Holds k := by
  unfold Holds at hk ⊢
  dsimp only
  rw [← List.append_assoc]
  exact hk.imp_left fun hk => List.mem_append_left _ hk

lemma holds_abandon {j : Nat} (k : Nat) (hj : w.Holds j) : (w.abandon k).Holds j := by
  have hsame := w.abandon_same k
  unfold Holds
  rw [hsame.phase, hsame.queue, hsame.state]
  exact hj

/-- A worker that nobody has told to stop, at some time. -/
structure Attending (w : Worker Ledger TimingTask) (now : Nat) : Prop where
  capacity : 0 < w.capacity
  period : w.period ≠ some 0
  isOpen : w.closed = false
  unasked : w.stopAsked = false
  phase : w.phase = .created ∨ w.phase = .waiting ∨
    ∃ task ends, w.phase = .running task ends false ∧ ends ≤ now
  slots : w.queue.length + w.granted.length ≤ w.capacity
  full : w.waiting ≠ [] → w.queue.length + w.granted.length = w.capacity

/-- The task in the worker's hand does not panic. -/
def Safe (w : Worker Ledger TimingTask) : Prop :=
  ∀ task ends stopping, w.phase = .running task ends stopping →
    ∃ state, w.state.run task = .ok state

/-- What such a worker may do by itself. -/
inductive Proceeds (now : Nat) (w : Worker Ledger TimingTask) : Worker Ledger TimingTask → Prop
  | begins (nextTick : Nat) (hphase : w.phase = .created)
      (hnext : nextTick = w.nextTick ∨ now < nextTick) :
      Proceeds now w { w with phase := .waiting, nextTick }
  | takes (task : TimingTask) (rest : List TimingTask) (hphase : w.phase = .waiting)
      (hqueue : w.queue = task :: rest) :
      Proceeds now w { w with phase := .running task now false, queue := rest }.release
  | finishes (task : TimingTask) (ends : Nat) (state : Ledger)
      (hphase : w.phase = .running task ends false) (hrun : w.state.run task = .ok state) :
      Proceeds now w { w with state, phase := .waiting }
  | ticks (nextTick : Nat) (log : List LogRecord) (hphase : w.phase = .waiting)
      (hdue : w.nextTick ≤ now) (hlater : w.nextTick < nextTick) :
      Proceeds now w { w with state := { w.state with log }, nextTick }

lemma Attending.not_over (h : w.Attending now) : w.isOver = false := by
  unfold isOver
  rcases h.phase with hphase | hphase | ⟨task, ends, hphase, -⟩
  · rw [hphase]
  · rw [hphase]
  · rw [hphase]

lemma Attending.move (h : w.Attending now) (hsafe : w.Safe) {move : WorkerMove}
    (hmove : w.move? Ledger.runnable now move = some w') : w.Proceeds now w' := by
  obtain ⟨capacity, period, state, phase, queue, waiting, granted, closed, stopAsked, nextTick⟩ := w
  have hphase := h.phase
  have hperiod := h.period
  have hunasked := h.unasked
  unfold move? at hmove
  dsimp only at hmove hphase hperiod hunasked
  rcases hphase with rfl | rfl | ⟨task, ends, rfl, hends⟩
  · cases move with
    | setUp =>
      match period, hperiod, hmove with
      | none, _, rfl => exact .begins nextTick rfl (.inl rfl)
      | some (p + 1), _, rfl => exact .begins _ rfl (.inr (by omega))
    | _ => cases hmove
  · cases move with
    | take =>
      match queue, hmove with
      | task :: rest, hmove =>
        rw [← Option.some.inj hmove]
        exact .takes task rest rfl rfl
    | tick =>
      match period, hperiod, hmove with
      | some p, hperiod, hmove =>
        dsimp only at hmove
        split at hmove
        · rename_i hdue
          rw [← Option.some.inj hmove]
          have hpos : p ≠ 0 := fun hzero => hperiod (congrArg some hzero)
          exact .ticks _ _ rfl hdue (by dsimp only; omega)
        · cases hmove
    | stop =>
      dsimp only at hmove
      rw [hunasked] at hmove
      cases hmove
    | _ => cases hmove
  · cases move with
    | finish =>
      obtain ⟨after, hrun⟩ := hsafe task ends false rfl
      dsimp only at hmove
      rw [if_pos hends, show Ledger.runnable.run state task = .ok after from hrun] at hmove
      rw [← Option.some.inj hmove]
      exact .finishes task ends after rfl hrun
    | _ => cases hmove

lemma Attending.release (capacity : 0 < w.capacity) (period : w.period ≠ some 0)
    (isOpen : w.closed = false) (unasked : w.stopAsked = false)
    (phase : w.phase = .created ∨ w.phase = .waiting ∨
      ∃ task ends, w.phase = .running task ends false ∧ ends ≤ now)
    (slots : w.queue.length + w.granted.length + 1 ≤ w.capacity)
    (full : w.waiting ≠ [] → w.queue.length + w.granted.length + 1 = w.capacity) :
    w.release.Attending now := by
  rcases w.release_cases with ⟨hnone, heq⟩ | ⟨ticket, rest, hwaiting, heq⟩
  · rw [heq]
    exact ⟨capacity, period, isOpen, unasked, phase, by omega, fun hne => absurd hnone hne⟩
  · have hfull := full (by rw [hwaiting]; exact List.cons_ne_nil _ _)
    have hsum : w.queue.length + (w.granted ++ [ticket]).length = w.capacity := by
      rw [List.length_append, List.length_singleton]
      omega
    rw [heq]
    exact ⟨capacity, period, isOpen, unasked, phase, Nat.le_of_eq hsum, fun _ => hsum⟩

theorem Attending.proceeds (h : w.Attending now) (hproceeds : w.Proceeds now w') :
    w'.Attending now := by
  have hslots := h.slots
  cases hproceeds with
  | begins nextTick hphase hnext =>
    exact ⟨h.capacity, h.period, h.isOpen, h.unasked, .inr (.inl rfl), hslots, h.full⟩
  | takes task rest hphase hqueue =>
    have hlength : w.queue.length = rest.length + 1 := by rw [hqueue, List.length_cons]
    refine Attending.release h.capacity h.period h.isOpen h.unasked
      (.inr (.inr ⟨task, now, rfl, Nat.le_refl _⟩)) ?_ (fun hne => ?_)
    · dsimp only
      omega
    · have hfull := h.full hne
      dsimp only
      omega
  | finishes task ends state hphase hrun =>
    exact ⟨h.capacity, h.period, h.isOpen, h.unasked, .inr (.inl rfl), hslots, h.full⟩
  | ticks nextTick log hphase hdue hlater =>
    exact ⟨h.capacity, h.period, h.isOpen, h.unasked, h.phase, hslots, h.full⟩

lemma Attending.later (h : w.Attending now) {later : Nat} (hle : now ≤ later) :
    w.Attending later := by
  refine ⟨h.capacity, h.period, h.isOpen, h.unasked, ?_, h.slots, h.full⟩
  rcases h.phase with hphase | hphase | ⟨task, ends, hphase, hends⟩
  · exact .inl hphase
  · exact .inr (.inl hphase)
  · exact .inr (.inr ⟨task, ends, hphase, Nat.le_trans hends hle⟩)

lemma Attending.push (h : w.Attending now) (task : TimingTask)
    (hroom : w.queue.length + w.granted.length < w.capacity) :
    ({ w with queue := w.queue ++ [task] } : Worker Ledger TimingTask).Attending now := by
  refine ⟨h.capacity, h.period, h.isOpen, h.unasked, h.phase, ?_, fun hne => ?_⟩
  · dsimp only
    rw [List.length_append, List.length_singleton]
    omega
  · have hfull := h.full hne
    omega

lemma Attending.room_iff (h : w.Attending now) :
    w.room = 0 ↔ w.queue.length + w.granted.length = w.capacity := by
  have hslots := h.slots
  unfold room
  omega

lemma Attending.trySubmit (h : w.Attending now) (task : TimingTask) :
    (w.trySubmit task = .ok { w with queue := w.queue ++ [task] } ∧
      w.queue.length + w.granted.length < w.capacity) ∨
    w.trySubmit task = .error (.full task) := by
  have hslots := h.slots
  have hroom := h.room_iff
  unfold Worker.trySubmit
  rw [if_neg (by rw [h.isOpen]; exact Bool.false_ne_true)]
  split
  · exact .inr rfl
  · exact .inl ⟨rfl, by omega⟩

lemma Attending.submit_cases (h : w.Attending now) (k : Nat) :
    (w.submit k (.summary k) = ({ w with queue := w.queue ++ [.summary k] }, .accepted) ∧
      w.queue.length + w.granted.length < w.capacity) ∨
    (w.submit k (.summary k) = ({ w with waiting := w.waiting ++ [k] }, .waits) ∧
      w.queue.length + w.granted.length = w.capacity) := by
  have hslots := h.slots
  have hroom := h.room_iff
  unfold submit
  rw [if_neg (by rw [h.isOpen]; exact Bool.false_ne_true)]
  split
  · exact .inr ⟨rfl, by omega⟩
  · exact .inl ⟨rfl, by omega⟩

lemma Attending.line_up (h : w.Attending now) (k : Nat)
    (hfull : w.queue.length + w.granted.length = w.capacity) :
    ({ w with waiting := w.waiting ++ [k] } : Worker Ledger TimingTask).Attending now :=
  ⟨h.capacity, h.period, h.isOpen, h.unasked, h.phase, h.slots, fun _ => hfull⟩

lemma Attending.resume_cases (h : w.Attending now) (k : Nat) :
    (k ∈ w.granted ∧ w.resume k (.summary k) = (w.enqueue k, .accepted)) ∨
    (k ∉ w.granted ∧ w.resume k (.summary k) = (w, .waits)) := by
  unfold resume
  rw [if_neg (by rw [h.isOpen]; exact Bool.false_ne_true)]
  by_cases hmem : k ∈ w.granted
  · exact .inl ⟨hmem, if_pos hmem⟩
  · exact .inr ⟨hmem, if_neg hmem⟩

lemma Attending.enqueue (h : w.Attending now) {k : Nat} (hmem : k ∈ w.granted) :
    (w.enqueue k).Attending now := by
  have hpos := List.length_pos_of_mem hmem
  have hsum : (w.enqueue k).queue.length + (w.enqueue k).granted.length =
      w.queue.length + w.granted.length := by
    unfold Worker.enqueue
    dsimp only
    rw [List.length_append, List.length_singleton, List.length_erase_of_mem hmem]
    omega
  exact ⟨h.capacity, h.period, h.isOpen, h.unasked, h.phase, hsum ▸ h.slots,
    fun hne => hsum.trans (h.full hne)⟩

lemma Attending.abandon (h : w.Attending now) (k : Nat) : (w.abandon k).Attending now := by
  unfold Worker.abandon
  split
  · rename_i hmem
    have hpos := List.length_pos_of_mem hmem
    have hlength := List.length_erase_of_mem hmem
    have hslots := h.slots
    refine Attending.release h.capacity h.period h.isOpen h.unasked h.phase ?_ (fun hne => ?_)
    · dsimp only
      omega
    · have hfull := h.full hne
      dsimp only
      omega
  · exact ⟨h.capacity, h.period, h.isOpen, h.unasked, h.phase, h.slots,
      fun hne => h.full fun hnil => hne (by rw [hnil]; rfl)⟩

/-- Whoever waits for a slot, or has one kept for it, goes on doing so. -/
lemma Proceeds.tickets (h : w.Proceeds now w') :
    (w'.waiting ++ w'.granted).Perm (w.waiting ++ w.granted) := by
  cases h with
  | takes task rest hphase hqueue =>
    exact release_perm { w with phase := .running task now false, queue := rest }
  | _ => exact .refl _

lemma Proceeds.holds (h : w.Proceeds now w') {k : Nat} (hk : w.Holds k) : w'.Holds k := by
  unfold Holds at hk ⊢
  cases h with
  | begins nextTick hphase hnext => rwa [hphase] at hk
  | takes task rest hphase hqueue =>
    rw [hphase, hqueue] at hk
    rw [release_eq]
    exact hk
  | finishes task ends state hphase hrun =>
    rw [hphase] at hk
    cases task with
    | record sample =>
      rw [Ledger.replies_of_record (.inl hrun)]
      refine hk.imp_left fun hk => ?_
      rcases List.mem_cons.mp hk with hk | hk
      · cases hk
      · exact hk
    | summary j =>
      cases hrun
      rcases hk with hk | hk
      · rcases List.mem_cons.mp hk with hk | hk
        · obtain rfl := TimingTask.summary.inj hk
          exact .inr (by simp)
        · exact .inl hk
      · refine .inr ?_
        rw [List.map_append]
        exact List.mem_append_left _ hk
  | ticks nextTick log hphase hdue hlater => exact hk

/-- How much the worker has to do at most. A request costs less the further it has come. -/
def workLeft (w : Worker Ledger TimingTask) (now : Nat) : Nat :=
  5 * w.waiting.length + 4 * w.granted.length + 3 * w.queue.length +
    2 * w.phase.inHand.length + (if w.phase = .created then 1 else 0) + (now + 1 - w.nextTick)

lemma workLeft_release (w : Worker Ledger TimingTask) (now : Nat) :
    w.release.workLeft now ≤ w.workLeft now := by
  rcases w.release_cases with ⟨-, heq⟩ | ⟨ticket, rest, hwaiting, heq⟩
  · exact Nat.le_of_eq (by rw [heq])
  · rw [heq]
    unfold workLeft
    rw [hwaiting]
    simp only [List.length_append, List.length_cons, List.length_nil]
    omega

lemma Proceeds.workLeft_lt (h : w.Proceeds now w') : w'.workLeft now < w.workLeft now := by
  cases h with
  | begins nextTick hphase hnext =>
    unfold workLeft
    simp only [hphase, WorkerPhase.inHand, reduceCtorEq, if_true, if_false, List.length_nil]
    omega
  | takes task rest hphase hqueue =>
    refine Nat.lt_of_le_of_lt (workLeft_release _ now) ?_
    unfold workLeft
    simp only [hphase, hqueue, WorkerPhase.inHand, reduceCtorEq, if_false, List.length_cons,
      List.length_nil]
    omega
  | finishes task ends state hphase hrun =>
    unfold workLeft
    simp only [hphase, WorkerPhase.inHand, reduceCtorEq, if_false, List.length_cons,
      List.length_nil]
    omega
  | ticks nextTick log hphase hdue hlater =>
    unfold workLeft
    dsimp only
    omega

lemma workLeft_enqueue {k : Nat} (hmem : k ∈ w.granted) :
    (w.enqueue k).workLeft now < w.workLeft now := by
  have hpos := List.length_pos_of_mem hmem
  unfold workLeft enqueue
  simp only [List.length_append, List.length_cons, List.length_nil, List.length_erase_of_mem hmem]
  omega

lemma Attending.exists_move (h : w.Attending now) (hbusy : w.phase = .waiting → w.queue ≠ []) :
    ∃ move w', w.move? Ledger.runnable now move = some w' := by
  obtain ⟨capacity, period, state, phase, queue, waiting, granted, closed, stopAsked, nextTick⟩ := w
  have hphase := h.phase
  dsimp only at hphase hbusy
  rcases hphase with rfl | rfl | ⟨task, ends, rfl, hends⟩
  · refine ⟨.setUp, ?_⟩
    match period with
    | none => exact ⟨_, rfl⟩
    | some 0 => exact ⟨_, rfl⟩
    | some (p + 1) => exact ⟨_, rfl⟩
  · match queue, hbusy rfl with
    | task :: rest, _ => exact ⟨.take, _, rfl⟩
  · refine ⟨.finish, ?_⟩
    unfold move?
    dsimp only
    rw [if_pos hends]
    split
    · exact ⟨_, rfl⟩
    · exact ⟨_, rfl⟩

end Worker

end ProcessorHost
