import ProcessorHost.Proofs.Worker.History

/-!
# The order of a worker's deeds

Unless its period is zero, a worker runs the accepted tasks in the order of their acceptance:
those it has run, the one in hand and those in the queue are together what was accepted. Its
last call is the hook at the end, after all of them, or a call that panics; then the queue is
closed and nothing changes any more. A worker whose period is zero breaks down when it begins.
-/

namespace ProcessorHost

variable {σ τ : Type}

namespace WorkerHistory

/-- How the tasks of a worker and its deeds are kept. -/
structure Books (h : WorkerHistory σ τ) : Prop where
  period : h.worker.period ≠ some 0
  slots : h.worker.queue.length + h.worker.granted.length ≤ h.worker.capacity
  ordered : Deed.tasks h.deeds <+: h.accepted
  account : (∀ deed ∈ h.deeds, deed.isPanic = false) →
    Deed.tasks h.deeds ++ (h.worker.phase.inHand ++ h.worker.queue) = h.accepted
  going : h.worker.isOver = false → ∀ deed ∈ h.deeds, deed.isLast = false
  ended : h.worker.isOver = true → h.worker.queue = [] ∧
    ∃ deeds last, h.deeds = deeds ++ [last] ∧ last.isLast = true ∧
      ∀ deed ∈ deeds, deed.isLast = false
  closing : h.worker.phase.isClosing = true → h.worker.closed = true

variable {r : Runnable σ τ} {h h' : WorkerHistory σ τ}

lemma start_eq {capacity : Nat} {period : Option Nat} {s₀ : σ} {w₀ : Worker σ τ}
    (hstart : Worker.start capacity period s₀ = .ok w₀) :
    w₀ = ⟨capacity, period, s₀, .created, [], [], [], false, false, 0⟩ := by
  unfold Worker.start at hstart
  split at hstart
  · cases hstart
  · split at hstart
    · cases hstart
    · cases hstart
      rfl

lemma Books.of_start {capacity : Nat} {period : Option Nat} {s₀ : σ} {w₀ : Worker σ τ}
    (hstart : Worker.start capacity period s₀ = .ok w₀) (hperiod : period ≠ some 0) :
    (of w₀).Books := by
  obtain rfl := start_eq hstart
  exact {
    period := hperiod
    slots := Nat.zero_le _
    ordered := List.prefix_rfl
    account := fun _ => rfl
    going := by simp [of]
    ended := by simp [of, Worker.isOver]
    closing := by simp [of, WorkerPhase.isClosing] }

/-- A worker that goes on: what it has run moves from the queue, through its hand, to the
deeds. -/
lemma Books.proceeds (b : h.Books) (hgoing : h.worker.isOver = false)
    (hgoing' : h'.worker.isOver = false) (hperiod : h'.worker.period = h.worker.period)
    (hslots : h'.worker.queue.length + h'.worker.granted.length ≤ h'.worker.capacity)
    (haccepted : h'.accepted = h.accepted) {deeds : List (Deed τ)}
    (hdeeds : h'.deeds = h.deeds ++ deeds) (hlast : ∀ deed ∈ deeds, deed.isLast = false)
    (hwork : Deed.tasks deeds ++ (h'.worker.phase.inHand ++ h'.worker.queue) =
      h.worker.phase.inHand ++ h.worker.queue)
    (hclosing : h'.worker.phase.isClosing = true → h'.worker.closed = true) : h'.Books := by
  have hnone : ∀ deed ∈ h'.deeds, deed.isLast = false := by
    intro deed hdeed
    rw [hdeeds, List.mem_append] at hdeed
    exact hdeed.elim (b.going hgoing deed) (hlast deed)
  have hcalm : ∀ deed ∈ h.deeds, deed.isPanic = false :=
    fun deed hdeed => Deed.isPanic_of_not_last (b.going hgoing deed hdeed)
  have haccount : Deed.tasks h'.deeds ++ (h'.worker.phase.inHand ++ h'.worker.queue) =
      h'.accepted := by
    rw [hdeeds, Deed.tasks_append, List.append_assoc, hwork, haccepted, b.account hcalm]
  exact {
    period := hperiod ▸ b.period
    slots := hslots
    ordered := ⟨_, haccount⟩
    account := fun _ => haccount
    going := fun _ => hnone
    ended := fun hover => by
      rw [hgoing'] at hover
      cases hover
    closing := hclosing }

/-- A worker that comes to its end with one more call: the hook, when nothing is left, or a
call that panics. -/
lemma Books.ends (b : h.Books) (hgoing : h.worker.isOver = false)
    (hover : h'.worker.isOver = true) (hperiod : h'.worker.period = h.worker.period)
    (hcapacity : h'.worker.capacity = h.worker.capacity)
    (hgranted : h'.worker.granted = h.worker.granted) (hqueue : h'.worker.queue = [])
    (hclosed : h'.worker.closed = true) (haccepted : h'.accepted = h.accepted) {last : Deed τ}
    (hdeeds : h'.deeds = h.deeds ++ [last]) (hlast : last.isLast = true)
    (hordered : last.task?.toList <+: h.worker.phase.inHand ++ h.worker.queue)
    (hdone : last.isPanic = false → last.task?.toList ++ h'.worker.phase.inHand =
      h.worker.phase.inHand ++ h.worker.queue) : h'.Books := by
  have hcalm : ∀ deed ∈ h.deeds, deed.isPanic = false :=
    fun deed hdeed => Deed.isPanic_of_not_last (b.going hgoing deed hdeed)
  have htasks : Deed.tasks h'.deeds = Deed.tasks h.deeds ++ last.task?.toList := by
    rw [hdeeds, Deed.tasks_append]
    cases last with
    | _ => rfl
  exact {
    period := hperiod ▸ b.period
    slots := by
      have hslots := b.slots
      rw [hqueue, hgranted, hcapacity, List.length_nil]
      omega
    ordered := by
      rw [htasks, haccepted, ← b.account hcalm]
      exact (List.prefix_append_right_inj _).mpr hordered
    account := fun hpanic => by
      have hlast' := hpanic last (by rw [hdeeds]; exact List.mem_append_right _ List.mem_cons_self)
      rw [htasks, hqueue, List.append_nil, List.append_assoc, hdone hlast', haccepted,
        b.account hcalm]
    going := fun hgoing' => by
      rw [hover] at hgoing'
      cases hgoing'
    ended := fun _ => ⟨hqueue, _, _, hdeeds, hlast, b.going hgoing⟩
    closing := fun _ => hclosed }

lemma Books.moves (b : h.Books) {deed : Option (Deed τ)}
    (hmove : h.worker.Moves r deed h'.worker) (haccepted : h'.accepted = h.accepted)
    (hdeeds : h'.deeds = h.deeds ++ deed.toList) : h'.Books := by
  obtain ⟨w', accepted', deeds'⟩ := h'
  have hslots := b.slots
  have hgoing := hmove.not_over
  cases hmove with
  | breaksDown hphase hperiod => exact absurd hperiod b.period
  | begins nextTick hphase hperiod =>
    refine b.proceeds hgoing rfl rfl hslots haccepted hdeeds (by simp) ?_
      (by simp [WorkerPhase.isClosing])
    simp [Deed.tasks, WorkerPhase.inHand, hphase]
  | takes task rest ends waiting granted hphase hqueue hgranted =>
    -- The slot of the task may be kept for a submitter at once.
    rw [hqueue, List.length_cons] at hslots
    refine b.proceeds hgoing rfl rfl ?_ haccepted hdeeds (by simp) ?_
      (by simp [WorkerPhase.isClosing])
    · dsimp only
      omega
    · simp [Deed.tasks, WorkerPhase.inHand, hphase, hqueue]
  | takesLate task rest ends hphase hqueue =>
    rw [hqueue, List.length_cons] at hslots
    refine b.proceeds hgoing rfl rfl ?_ haccepted hdeeds (by simp) ?_ ?_
    · dsimp only
      omega
    · simp [Deed.tasks, WorkerPhase.inHand, hphase, hqueue]
    · exact fun _ => b.closing (by simp [WorkerPhase.isClosing, hphase])
  | runs task ends stopping state hphase hrun =>
    refine b.proceeds hgoing ?_ rfl hslots haccepted hdeeds
      (by simp [Deed.isLast, Deed.isPanic]) ?_ ?_
    · cases stopping with
      | _ => rfl
    · cases stopping with
      | _ => simp [Deed.tasks, Deed.task?, WorkerPhase.inHand, hphase]
    · cases stopping with
      | false => simp [WorkerPhase.isClosing]
      | true => exact fun _ => b.closing (by simp [WorkerPhase.isClosing, hphase])
  | panics task ends stopping state hphase hrun =>
    refine b.ends hgoing rfl rfl rfl rfl rfl rfl haccepted hdeeds rfl ?_
      (by simp [Deed.isPanic])
    simp [Deed.task?, WorkerPhase.inHand, hphase]
  | ticks nextTick state hphase htick =>
    refine b.proceeds hgoing (by simp [Worker.isOver, hphase]) rfl hslots
      haccepted hdeeds (by simp [Deed.isLast, Deed.isPanic]) ?_ b.closing
    simp [Deed.tasks, Deed.task?]
  | tickPanics state hphase htick =>
    refine b.ends hgoing rfl rfl rfl rfl rfl rfl haccepted hdeeds rfl ?_
      (by simp [Deed.isPanic])
    simp [Deed.task?]
  | stops hphase hasked =>
    refine b.proceeds hgoing rfl rfl hslots haccepted hdeeds (by simp) ?_
      fun _ => rfl
    simp [Deed.tasks, WorkerPhase.inHand, hphase]
  | windsUp state hphase hqueue hhook =>
    refine b.ends hgoing rfl rfl rfl rfl hqueue ?_ haccepted hdeeds rfl ?_
      fun _ => ?_
    · exact b.closing (by simp [WorkerPhase.isClosing, hphase])
    · simp [Deed.task?]
    · simp [Deed.task?, WorkerPhase.inHand, hphase, hqueue]
  | windUpPanics state hphase hqueue hhook =>
    refine b.ends hgoing rfl rfl rfl rfl rfl rfl haccepted hdeeds rfl ?_
      fun _ => ?_
    · simp [Deed.task?]
    · simp [Deed.task?, WorkerPhase.inHand, hphase, hqueue]

lemma Books.closed_of_over (b : h.Books) (hover : h.worker.isOver = true) :
    h.worker.closed = true := by
  apply b.closing
  unfold Worker.isOver at hover
  unfold WorkerPhase.isClosing
  split at hover
  · rename_i hphase
    rw [hphase]
  · rename_i hphase
    rw [hphase]
  · cases hover

lemma inHand_of_over (hover : h.worker.isOver = true) : h.worker.phase.inHand = [] := by
  unfold Worker.isOver at hover
  unfold WorkerPhase.inHand
  split
  · rename_i hphase
    rw [hphase] at hover
    cases hover
  · rfl

/-- What a submission leaves in the books: an accepted task is the last in the queue. -/
lemma Books.admits (b : h.Books) {task : Option τ} (hadmits : h.worker.Admits task h'.worker)
    (haccepted : h'.accepted = h.accepted ++ task.toList) (hdeeds : h'.deeds = h.deeds) :
    h'.Books := by
  obtain ⟨w', accepted', deeds'⟩ := h'
  obtain rfl : deeds' = h.deeds := hdeeds
  cases hadmits with
  | same hsame =>
    obtain rfl : accepted' = h.accepted := haccepted.trans (List.append_nil _)
    have hover : w'.isOver = h.worker.isOver := by
      unfold Worker.isOver
      rw [hsame.phase]
    refine ⟨hsame.period ▸ b.period, ?_, b.ordered, ?_, ?_, ?_, ?_⟩
    · have hslots := b.slots
      have hgranted := hsame.granted
      rw [hsame.queue, hsame.capacity]
      omega
    · rw [hsame.phase, hsame.queue]
      exact b.account
    · rw [hover]
      exact b.going
    · rw [hover, hsame.queue]
      exact b.ended
    · rw [hsame.phase, hsame.closed]
      exact b.closing
  | accepts task granted hopen hslots =>
    obtain rfl : accepted' = h.accepted ++ [task] := haccepted
    refine ⟨b.period, ?_, b.ordered.trans (List.prefix_append _ _), fun hcalm => ?_, b.going, ?_,
      b.closing⟩
    · simpa using hslots b.slots
    · rw [← b.account hcalm]
      simp
    · intro hover
      rw [b.closed_of_over hover] at hopen
      cases hopen

theorem Books.effect (b : h.Books) (heffect : Effect r h h') : h'.Books := by
  cases heffect with
  | moves hmove accepted deeds => exact b.moves hmove accepted deeds
  | admits hadmits accepted deeds => exact b.admits hadmits accepted deeds

/-- The books are in order after every run. -/
theorem Books.after (b : h.Books) (steps : List (WorkerStep τ)) : (h.after r steps).Books := by
  induction steps generalizing h with
  | nil => exact b
  | cons step rest ih => exact ih (b.effect (next_effect r h step))

lemma performed_effect {s₀ : σ} (hperformed : r.Performed s₀ h.deeds h.worker.state)
    (heffect : Effect r h h') : r.Performed s₀ h'.deeds h'.worker.state := by
  obtain ⟨w', accepted', deeds'⟩ := h'
  cases heffect with
  | moves hmove accepted deeds =>
    obtain rfl : deeds' = _ := deeds
    cases hmove with
    | runs task ends stopping state hphase hrun => exact .ran hperformed hrun
    | panics task ends stopping state hphase hrun => exact .panicked hperformed hrun
    | ticks nextTick state hphase htick => exact .ticked hperformed htick
    | tickPanics state hphase htick => exact .tickPanicked hperformed htick
    | windsUp state hphase hqueue hhook => exact .shutDown hperformed (.inl hhook)
    | windUpPanics state hphase hqueue hhook => exact .shutDown hperformed (.inr hhook)
    | _ => simpa using hperformed
  | admits hadmits accepted deeds =>
    obtain rfl : deeds' = h.deeds := deeds
    cases hadmits with
    | same hsame => exact hsame.state ▸ hperformed
    | accepts task granted hopen hslots => exact hperformed

lemma performed_after {s₀ : σ} (hperformed : r.Performed s₀ h.deeds h.worker.state)
    (steps : List (WorkerStep τ)) :
    r.Performed s₀ (h.after r steps).deeds (h.after r steps).worker.state := by
  induction steps generalizing h with
  | nil => exact hperformed
  | cons step rest ih => exact ih (performed_effect hperformed (next_effect r h step))

/-- A worker that is over stays as it is, but for the submitters it keeps. -/
structure Stays (h h' : WorkerHistory σ τ) : Prop where
  ended : h'.worker.isOver = true
  deeds : h'.deeds = h.deeds
  accepted : h'.accepted = h.accepted

lemma Books.stays_effect (b : h.Books) (hover : h.worker.isOver = true)
    (heffect : Effect r h h') : h.Stays h' := by
  obtain ⟨w', accepted', deeds'⟩ := h'
  cases heffect with
  | moves hmove accepted deeds =>
    rw [hmove.not_over] at hover
    cases hover
  | admits hadmits accepted deeds =>
    cases hadmits with
    | same hsame =>
      refine ⟨?_, deeds, accepted.trans (List.append_nil _)⟩
      rw [← hover, Worker.isOver, Worker.isOver, hsame.phase]
    | accepts task granted hopen hslots =>
      rw [b.closed_of_over hover] at hopen
      cases hopen

/-- Nothing is run, called or accepted any more. -/
theorem Books.stays (b : h.Books) (hover : h.worker.isOver = true) (steps : List (WorkerStep τ)) :
    h.Stays (h.after r steps) := by
  induction steps generalizing h with
  | nil => exact ⟨hover, rfl, rfl⟩
  | cons step rest ih =>
    have hnext := next_effect r h step
    have hstays := b.stays_effect hover hnext
    have hrest := ih (b.effect hnext) hstays.ended
    exact ⟨hrest.ended, hrest.deeds.trans hstays.deeds, hrest.accepted.trans hstays.accepted⟩

end WorkerHistory

end ProcessorHost
