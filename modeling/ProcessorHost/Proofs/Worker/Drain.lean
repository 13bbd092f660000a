import ProcessorHost.Proofs.Worker.Order

/-!
# What a worker leaves behind

A worker with a period other than zero is orderly in every run. One with the period zero is not:
it breaks down when it begins, without a call of its runnable, and loses what is in its queue.
-/

namespace ProcessorHost

variable {σ τ : Type}

namespace WorkerHistory

/-- What can be relied on at any moment in the life of a worker. -/
structure Orderly (r : Runnable σ τ) (capacity : Nat) (s₀ : σ) (h : WorkerHistory σ τ) :
    Prop where
  performed : r.Performed s₀ h.deeds h.worker.state
  bounded : h.worker.queue.length ≤ capacity
  /-- The tasks that were run are the first that were accepted. -/
  ordered : Deed.tasks h.deeds <+: h.accepted
  /-- A task that is tried is accepted or handed back, and then nothing else happens. -/
  answered : ∀ task,
    (∃ worker, h.worker.trySubmit task = .ok worker ∧
      h.next r (.trySubmit task) = ⟨worker, h.accepted ++ [task], h.deeds⟩) ∨
    (h.worker.trySubmit task = .error (.full task) ∨
      h.worker.trySubmit task = .error (.closed task)) ∧ h.next r (.trySubmit task) = h
  /-- If no call panicked, every accepted task was run, and then the hook was called, once. -/
  drained : h.worker.isOver = true → (∀ deed ∈ h.deeds, deed.isPanic = false) →
    Deed.tasks h.deeds = h.accepted ∧
      ∃ deeds, h.deeds = deeds ++ [.shutDown] ∧ .shutDown ∉ deeds
  /-- Once the worker is over nothing is run, called or accepted any more. -/
  final : h.worker.isOver = true → ∀ steps, h.Stays (h.after r steps)
  /-- A call that panicked was the last, the worker is over, and submissions are refused. -/
  broken : ∀ deed ∈ h.deeds, deed.isPanic = true →
    h.worker.isOver = true ∧ (∃ deeds, h.deeds = deeds ++ [deed]) ∧
      ∀ ticket task, h.worker.trySubmit task = .error (.closed task) ∧
        (h.worker.submit ticket task).2 = .closed ∧ (h.worker.resume ticket task).2 = .closed

variable {r : Runnable σ τ} {h : WorkerHistory σ τ} {capacity : Nat} {s₀ : σ}

lemma answered_trySubmit (r : Runnable σ τ) (h : WorkerHistory σ τ) (task : τ) :
    (∃ worker, h.worker.trySubmit task = .ok worker ∧
      h.next r (.trySubmit task) = ⟨worker, h.accepted ++ [task], h.deeds⟩) ∨
    (h.worker.trySubmit task = .error (.full task) ∨
      h.worker.trySubmit task = .error (.closed task)) ∧ h.next r (.trySubmit task) = h := by
  unfold next
  dsimp only
  rcases h.worker.trySubmit_cases task with ⟨worker, heq, -⟩ | heq | heq
  · rw [heq]
    exact .inl ⟨worker, rfl, rfl⟩
  · rw [heq]
    exact .inr ⟨.inl rfl, rfl⟩
  · rw [heq]
    exact .inr ⟨.inr rfl, rfl⟩

/-- Without a panic the last call is the hook, and all tasks come before it. -/
lemma Books.drained (b : h.Books) (hover : h.worker.isOver = true)
    (hcalm : ∀ deed ∈ h.deeds, deed.isPanic = false) :
    Deed.tasks h.deeds = h.accepted ∧
      ∃ deeds, h.deeds = deeds ++ [.shutDown] ∧ .shutDown ∉ deeds := by
  obtain ⟨hqueue, deeds, last, hdeeds, hlast, hfirst⟩ := b.ended hover
  have haccount := b.account hcalm
  rw [inHand_of_over hover, hqueue, List.append_nil, List.append_nil] at haccount
  refine ⟨haccount, deeds, ?_, fun hmem => ?_⟩
  · have hlast' := hcalm last (by rw [hdeeds]; exact List.mem_append_right _ List.mem_cons_self)
    rw [Deed.eq_shutDown hlast hlast'] at hdeeds
    exact hdeeds
  · cases hfirst _ hmem

lemma Books.last_of_panic (b : h.Books) {deed : Deed τ} (hdeed : deed ∈ h.deeds)
    (hpanic : deed.isPanic = true) :
    h.worker.isOver = true ∧ ∃ deeds, h.deeds = deeds ++ [deed] := by
  have hlast : deed.isLast = true := by
    by_contra hne
    rw [Deed.isPanic_of_not_last (Bool.not_eq_true _ ▸ hne)] at hpanic
    cases hpanic
  have hover : h.worker.isOver = true := by
    by_contra hne
    rw [b.going (Bool.not_eq_true _ ▸ hne) deed hdeed] at hlast
    cases hlast
  obtain ⟨-, deeds, last, hdeeds, -, hfirst⟩ := b.ended hover
  refine ⟨hover, deeds, ?_⟩
  rw [hdeeds, List.mem_append, List.mem_singleton] at hdeed
  rcases hdeed with hdeed | rfl
  · rw [hfirst deed hdeed] at hlast
    cases hlast
  · exact hdeeds

lemma refuses_of_closed {w : Worker σ τ} (hclosed : w.closed = true) (ticket : Nat) (task : τ) :
    w.trySubmit task = .error (.closed task) ∧ (w.submit ticket task).2 = .closed ∧
      (w.resume ticket task).2 = .closed := by
  simp [Worker.trySubmit, Worker.submit, Worker.resume, hclosed]

lemma capacity_effect {h' : WorkerHistory σ τ} (heffect : Effect r h h') :
    h'.worker.capacity = h.worker.capacity := by
  obtain ⟨w', accepted', deeds'⟩ := h'
  cases heffect with
  | moves hmove accepted deeds =>
    cases hmove with
    | _ => rfl
  | admits hadmits accepted deeds =>
    cases hadmits with
    | same hsame => exact hsame.capacity
    | accepts task granted hopen hslots => rfl

lemma capacity_after (r : Runnable σ τ) (h : WorkerHistory σ τ) (steps : List (WorkerStep τ)) :
    (h.after r steps).worker.capacity = h.worker.capacity := by
  induction steps generalizing h with
  | nil => rfl
  | cons step rest ih => exact (ih _).trans (capacity_effect (next_effect r h step))

lemma Books.orderly (b : h.Books) (hcapacity : h.worker.capacity = capacity)
    (hperformed : r.Performed s₀ h.deeds h.worker.state) : h.Orderly r capacity s₀ where
  performed := hperformed
  bounded := by
    rw [← hcapacity]
    exact Nat.le_trans (Nat.le_add_right _ _) b.slots
  ordered := b.ordered
  answered := answered_trySubmit r h
  drained := b.drained
  final := b.stays
  broken deed hdeed hpanic := by
    obtain ⟨hover, hlast⟩ := b.last_of_panic hdeed hpanic
    exact ⟨hover, hlast, refuses_of_closed (b.closed_of_over hover)⟩

/-- Exactly the workers whose period is not zero are orderly whatever happens. -/
theorem orderly_iff_period (r : Runnable σ τ) {period : Option Nat} {w₀ : Worker σ τ}
    (hstart : Worker.start capacity period s₀ = .ok w₀) :
    (∀ steps, ((of w₀).after r steps).Orderly r capacity s₀) ↔ period ≠ some 0 := by
  constructor
  · intro horderly hzero
    obtain rfl := start_eq hstart
    subst hzero
    obtain ⟨-, deeds, hdeeds, -⟩ := (horderly [.move .setUp 0]).drained rfl (by
      intro deed hdeed
      cases hdeed)
    cases deeds with
    | nil => cases hdeeds
    | cons deed rest => cases hdeeds
  · intro hperiod steps
    have hbooks := (Books.of_start hstart hperiod).after (r := r) steps
    obtain rfl := start_eq hstart
    exact hbooks.orderly (capacity_after r _ steps) (performed_after .start steps)

/-- Keeps the numbers it is given; the number zero is one too many. -/
def collecting : Runnable (List Nat) Nat where
  duration _ := 0
  run kept n := if n = 0 then .error kept else .ok (kept ++ [n])
  tick kept := .ok kept
  shutdown kept := .ok kept

theorem orderly_collecting : ((of ⟨2, some 5, [], .created, [], [], [], false, false, 0⟩).after
    collecting [.trySubmit 1, .submit 7 2, .submit 8 3, .trySubmit 4, .move .setUp 0,
      .move .take 0, .askStop, .resume 8 3, .move .finish 0, .move .stop 0, .move .take 0,
      .move .finish 0, .move .take 0, .move .finish 0, .move .windUp 0]).Orderly collecting 2
      [] := by
  have hstart : Worker.start 2 (some 5) ([] : List Nat) =
      .ok (⟨2, some 5, [], .created, [], [], [], false, false, 0⟩ : Worker (List Nat) Nat) := rfl
  exact (orderly_iff_period collecting hstart).mpr (by decide) _

/-- With the period zero an accepted task is lost, though nothing panicked. -/
theorem not_orderly_zero_period :
    ¬ ((of ⟨4, some 0, [], .created, [], [], [], false, false, 0⟩).after collecting
      [.trySubmit 1, .askStop, .move .setUp 0]).Orderly collecting 4 [] := by
  intro horderly
  obtain ⟨hlost, -⟩ := horderly.drained rfl (by decide)
  exact absurd hlost (by decide)

end WorkerHistory

end ProcessorHost
