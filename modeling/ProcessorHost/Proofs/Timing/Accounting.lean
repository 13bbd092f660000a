import ProcessorHost.Proofs.Timing.CollectorHistory

/-!
# What becomes of timing samples

As long as no record panics, every sample that was submitted is folded into the aggregate, waits
for it, or was dropped and counted, and those that were taken are folded once each and in their
order. This is so exactly if the report interval is not zero; with the interval zero the worker
breaks down when it begins, and the samples in its queue are neither folded nor counted.
-/

namespace ProcessorHost

variable {E L : Type}

/-- The aggregate of some samples. -/
def TimingAggregate.ofSamples (samples : List TimingSample) :
    Except (TimingStats.Overflow × TimingAggregate) TimingAggregate :=
  samples.foldlM record empty

/-- The aggregate of a collector's worker is that of the samples it has run. -/
def WorkerHistory.Folds (h : WorkerHistory Ledger TimingTask) : Prop :=
  (∀ deed ∈ h.deeds, deed.isPanic = false) →
    TimingAggregate.ofSamples (TimingTask.samples (Deed.tasks h.deeds)) =
      .ok h.worker.state.aggregate

namespace WorkerHistory

variable {h h' : WorkerHistory Ledger TimingTask}

/-- A task that does not panic folds its sample, or leaves the aggregate as it is. -/
lemma Folds.ran {deeds : List (Deed TimingTask)} {l l' : Ledger} {task : TimingTask}
    (hfold : TimingAggregate.ofSamples (TimingTask.samples (Deed.tasks deeds)) = .ok l.aggregate)
    (hrun : l.run task = .ok l') :
    TimingAggregate.ofSamples (TimingTask.samples (Deed.tasks (deeds ++ [.ran task]))) =
      .ok l'.aggregate := by
  unfold TimingAggregate.ofSamples at hfold ⊢
  rw [Deed.tasks_append, TimingTask.samples_append, List.foldlM_append, hfold]
  unfold Ledger.run at hrun
  cases task with
  | record sample =>
    dsimp only at hrun
    split at hrun
    · rename_i aggregate heq
      cases hrun
      change l.aggregate.record sample >>= pure = _
      rw [heq]
      rfl
    · cases hrun
  | summary request =>
    cases hrun
    rfl

lemma Folds.called {deeds : List (Deed TimingTask)} {deed : Deed TimingTask}
    {aggregate : TimingAggregate} (hnone : deed.task? = none)
    (hfold : TimingAggregate.ofSamples (TimingTask.samples (Deed.tasks deeds)) = .ok aggregate) :
    TimingAggregate.ofSamples (TimingTask.samples (Deed.tasks (deeds ++ [deed]))) =
      .ok aggregate := by
  rw [Deed.tasks_of_none hnone]
  exact hfold

lemma Folds.effect (hfolds : h.Folds) (heffect : Effect Ledger.runnable h h') : h'.Folds := by
  obtain ⟨w', accepted', deeds'⟩ := h'
  intro hcalm
  cases heffect with
  | moves hmove accepted deeds =>
    obtain rfl : deeds' = _ := deeds
    have hfold := hfolds fun deed hdeed => hcalm deed (List.mem_append_left _ hdeed)
    cases hmove with
    | runs task ends stopping state hphase hrun => exact Folds.ran hfold hrun
    | panics task ends stopping state hphase hrun =>
      cases hcalm (.panicked task) (by simp)
    | tickPanics state hphase htick => cases htick
    | windUpPanics state hphase hqueue hhook => cases hhook
    | ticks nextTick state hphase htick =>
      cases htick
      exact Folds.called rfl hfold
    | windsUp state hphase hqueue hhook =>
      cases hhook
      exact Folds.called rfl hfold
    | _ => rwa [Option.toList_none, List.append_nil]
  | admits hadmits accepted deeds =>
    obtain rfl : deeds' = h.deeds := deeds
    cases hadmits with
    | same hsame => exact hsame.state ▸ hfolds hcalm
    | accepts task granted hopen hslots => exact hfolds hcalm

end WorkerHistory

namespace CollectorHistory

/-- How the samples of a collector are kept. -/
structure Kept (h : CollectorHistory E L) : Prop where
  books : h.work.Books
  folds : h.work.Folds
  taken : TimingTask.samples h.accepted = h.taken
  dropped : h.submissions.length = h.taken.length + h.collector.dropped
  counters : h.collector.dropped = h.host.metrics.count DropReason.queueFull.counter +
    h.host.metrics.count DropReason.collectorStopped.counter

variable {h h' : CollectorHistory E L}

lemma taken_of_append {sample : TimingSample} {reason : Option DropReason}
    (hsubmissions : h'.submissions = h.submissions ++ [(sample, reason)]) :
    h'.taken = h.taken ++ if reason = none then [sample] else [] := by
  unfold taken
  rw [hsubmissions, List.filter_append, List.map_append]
  cases reason with
  | none => rfl
  | some reason => rfl

lemma counters_increment (m : Metrics) (reason : DropReason) :
    (m.increment reason.counter).count DropReason.queueFull.counter +
        (m.increment reason.counter).count DropReason.collectorStopped.counter =
      m.count DropReason.queueFull.counter + m.count DropReason.collectorStopped.counter + 1 := by
  have hne : DropReason.queueFull.counter ≠ DropReason.collectorStopped.counter := by decide
  rw [Metrics.count_increment, Metrics.count_increment]
  cases reason with
  | queueFull =>
    rw [if_pos rfl, if_neg hne.symm]
    omega
  | collectorStopped =>
    rw [if_neg hne, if_pos rfl]
    omega

lemma Kept.effect (k : h.Kept) (heffect : Effect h h') : h'.Kept := by
  cases heffect with
  | takes sample work accepted submissions dropped metrics =>
    have htaken := taken_of_append submissions
    rw [if_pos rfl] at htaken
    refine ⟨k.books.effect work, k.folds.effect work, ?_, ?_, ?_⟩
    · rw [accepted, TimingTask.samples_append, k.taken, htaken]
      rfl
    · rw [submissions, htaken, dropped, List.length_append, List.length_append, k.dropped]
      simp only [List.length_singleton]
      omega
    · rw [dropped, metrics]
      exact k.counters
  | drops sample reason work submissions dropped metrics =>
    have htaken := taken_of_append submissions
    rw [if_neg (by simp), List.append_nil] at htaken
    have haccepted : h'.accepted = h.accepted := congrArg WorkerHistory.accepted work
    refine ⟨work ▸ k.books, work ▸ k.folds, ?_, ?_, ?_⟩
    · rw [haccepted, htaken, k.taken]
    · rw [submissions, htaken, dropped, List.length_append, k.dropped]
      simp only [List.length_singleton]
      omega
    · rw [dropped, metrics, counters_increment, k.counters]
  | works work samples submissions dropped metrics =>
    have htaken : h'.taken = h.taken := by rw [CollectorHistory.taken, submissions]; rfl
    refine ⟨k.books.effect work, k.folds.effect work, ?_, ?_, ?_⟩
    · rw [samples, htaken, k.taken]
    · rw [submissions, htaken, dropped, k.dropped]
    · rw [dropped, metrics]
      exact k.counters
  | reports log work submissions dropped metrics =>
    have htaken : h'.taken = h.taken := by rw [CollectorHistory.taken, submissions]; rfl
    have haccepted : h'.accepted = h.accepted := congrArg WorkerHistory.accepted work
    -- What was logged is no concern of the books.
    have hbooks := k.books
    refine ⟨work ▸ ⟨hbooks.period, hbooks.slots, hbooks.ordered, hbooks.account, hbooks.going,
      hbooks.ended, hbooks.closing⟩, work ▸ k.folds, ?_, ?_, ?_⟩
    · rw [haccepted, htaken, k.taken]
    · rw [submissions, htaken, dropped, k.dropped]
    · rw [dropped, metrics]
      exact k.counters

theorem Kept.after (k : h.Kept) (steps : List CollectorStep) : (h.after steps).Kept := by
  induction steps generalizing h with
  | nil => exact k
  | cons step rest ih => exact ih (k.effect (next_effect h step))

/-- What can be relied on at any moment in the life of a collector. -/
structure Accounted (h : CollectorHistory E L) : Prop where
  total : h.submissions.length =
    h.folded.length + h.pending.length + h.collector.dropped
  /-- The samples that were taken are folded once each, in the order in which they were taken. -/
  ordered : h.taken = h.folded ++ h.pending
  aggregate : TimingAggregate.ofSamples h.folded = .ok h.collector.worker.state.aggregate
  /-- A sample is dropped if the queue is closed, or if no slot of it is free; slots that are
  kept for requests count as taken. -/
  reason : ∀ sample, (h.collector.submit sample).2 =
    if h.collector.worker.closed then some .collectorStopped
    else if h.collector.worker.queue.length + h.collector.worker.granted.length =
        h.collector.worker.capacity then some .queueFull
    else none
  counters : h.collector.dropped = h.host.metrics.count DropReason.queueFull.counter +
    h.host.metrics.count DropReason.collectorStopped.counter
  /-- Nothing but the submission of a sample counts as dropped. -/
  others : ∀ step, (∀ sample, step ≠ .submit sample) →
    (h.next step).submissions = h.submissions ∧
      (h.next step).collector.dropped = h.collector.dropped
  /-- Once the worker is over, as it is when a shutdown is, nothing is pending any more. -/
  settled : h.collector.worker.isOver = true → ∀ steps, (h.after steps).pending = [] ∧
    (h.after steps).submissions.length =
      (h.after steps).folded.length + (h.after steps).collector.dropped

lemma submit_reason (c : Collector) (sample : TimingSample)
    (hslots : c.worker.queue.length + c.worker.granted.length ≤ c.worker.capacity) :
    (c.submit sample).2 =
      if c.worker.closed then some .collectorStopped
      else if c.worker.queue.length + c.worker.granted.length = c.worker.capacity then
        some .queueFull
      else none := by
  have hroom : c.worker.room = 0 ↔
      c.worker.queue.length + c.worker.granted.length = c.worker.capacity := by
    unfold Worker.room
    omega
  unfold Collector.submit Worker.trySubmit
  by_cases hclosed : c.worker.closed
  · simp only [hclosed, if_true]
  · by_cases hfull : c.worker.room = 0
    · simp only [hclosed, hfull, hroom.mp hfull, if_true, Bool.false_eq_true, if_false]
    · simp only [hclosed, hfull, mt hroom.mpr hfull, Bool.false_eq_true, if_false]

lemma Kept.ordered (k : h.Kept) (hcalm : ∀ deed ∈ h.deeds, deed.isPanic = false) :
    h.taken = h.folded ++ h.pending := by
  have haccount := k.books.account hcalm
  rw [← k.taken, folded, pending, ← TimingTask.samples_append]
  exact congrArg TimingTask.samples haccount.symm

lemma Kept.total (k : h.Kept) (hcalm : ∀ deed ∈ h.deeds, deed.isPanic = false) :
    h.submissions.length = h.folded.length + h.pending.length + h.collector.dropped := by
  rw [k.dropped, k.ordered hcalm, List.length_append]

lemma Kept.pending_of_over (k : h.Kept) (hover : h.collector.worker.isOver = true) :
    h.pending = [] := by
  have hhand : h.collector.worker.phase.inHand = [] :=
    WorkerHistory.inHand_of_over (h := h.work) hover
  have hqueue : h.collector.worker.queue = [] := (k.books.ended hover).1
  rw [pending, hhand, hqueue]
  rfl

lemma Kept.stays (k : h.Kept) (hover : h.collector.worker.isOver = true)
    (steps : List CollectorStep) :
    (h.after steps).collector.worker.isOver = true ∧ (h.after steps).deeds = h.deeds := by
  induction steps generalizing h with
  | nil => exact ⟨hover, rfl⟩
  | cons step rest ih =>
    have heffect := next_effect h step
    have hnext : (h.next step).collector.worker.isOver = true ∧ (h.next step).deeds = h.deeds := by
      cases heffect with
      | takes sample work accepted submissions dropped metrics =>
        have hstays := k.books.stays_effect hover work
        exact ⟨hstays.ended, hstays.deeds⟩
      | works work samples submissions dropped metrics =>
        have hstays := k.books.stays_effect hover work
        exact ⟨hstays.ended, hstays.deeds⟩
      | drops sample reason work submissions dropped metrics =>
        exact ⟨(congrArg (·.worker.isOver) work).trans hover, congrArg (·.deeds) work⟩
      | reports log work submissions dropped metrics =>
        exact ⟨(congrArg (·.worker.isOver) work).trans hover, congrArg (·.deeds) work⟩
    obtain ⟨hover', hdeeds⟩ := ih (k.effect heffect) hnext.1
    exact ⟨hover', hdeeds.trans hnext.2⟩

theorem Kept.accounted (k : h.Kept) (hcalm : ∀ deed ∈ h.deeds, deed.isPanic = false) :
    h.Accounted where
  total := k.total hcalm
  ordered := k.ordered hcalm
  aggregate := k.folds hcalm
  reason sample := submit_reason h.collector sample k.books.slots
  counters := k.counters
  others step hstep := dropped_next h hstep
  settled hover steps := by
    obtain ⟨hover', hdeeds⟩ := k.stays hover steps
    have hpending := (k.after steps).pending_of_over hover'
    have htotal := (k.after steps).total (by rw [hdeeds]; exact hcalm)
    rw [hpending, List.length_nil, Nat.add_zero] at htotal
    exact ⟨hpending, htotal⟩

lemma Kept.of_start {capacity : Nat} {period : Option Nat} {worker : Worker Ledger TimingTask}
    (hstart : Worker.start capacity period Ledger.empty = .ok worker) (hperiod : period ≠ some 0)
    (events : E) (lifecycle : L) :
    (begin (Host.fresh events lifecycle ⟨worker, 0, true⟩)).Kept where
  books := WorkerHistory.Books.of_start hstart hperiod
  folds _ := by
    obtain rfl := WorkerHistory.start_eq hstart
    rfl
  taken := rfl
  dropped := rfl
  counters := rfl

lemma not_accounted_of_zero {capacity : Nat} {worker : Worker Ledger TimingTask}
    (hstart : Worker.start capacity (some 0) Ledger.empty = .ok worker) (events : E)
    (lifecycle : L) (sample : TimingSample) :
    ((begin (Host.fresh events lifecycle ⟨worker, 0, true⟩)).after
      [.submit sample, .shutdown, .move .setUp 0]).deeds = [] ∧
    ¬ ((begin (Host.fresh events lifecycle ⟨worker, 0, true⟩)).after
      [.submit sample, .shutdown, .move .setUp 0]).Accounted := by
  have hcapacity : capacity ≠ 0 := by
    rintro rfl
    cases hstart
  obtain rfl := WorkerHistory.start_eq hstart
  have hsubmit : (begin (Host.fresh events lifecycle
      ⟨⟨capacity, some 0, .empty, .created, [], [], [], false, false, 0⟩, 0, true⟩)).next
        (.submit sample) =
      { host := Host.fresh events lifecycle
          ⟨⟨capacity, some 0, .empty, .created, [.record sample], [], [], false, false, 0⟩, 0, true⟩
        submissions := [(sample, none)]
        accepted := [.record sample]
        deeds := [] } := by
    simp [next, begin, collector, Host.fresh, Host.submit, Collector.submit, Worker.trySubmit,
      Worker.room, hcapacity]
  unfold after
  rw [List.foldl_cons, hsubmit]
  refine ⟨rfl, fun haccounted => ?_⟩
  have htotal := haccounted.total
  cases htotal

/-- Exactly the collectors whose report interval is not zero account for their samples. -/
theorem accounted_iff_interval {config : TimingConfig} {timing : Collector} {record : LogRecord}
    (hstart : Collector.start config = .ok (timing, record)) (events : E) (lifecycle : L) :
    (∀ steps, (∀ deed ∈ ((begin (Host.fresh events lifecycle timing)).after steps).deeds,
        deed.isPanic = false) →
      ((begin (Host.fresh events lifecycle timing)).after steps).Accounted) ↔
    config.reportInterval.map (·.nanos) ≠ some 0 := by
  unfold Collector.start at hstart
  split at hstart
  · cases hstart
  · rename_i worker hworker
    cases hstart
    constructor
    · intro haccounted hzero
      rw [hzero] at hworker
      obtain ⟨hdeeds, hnot⟩ := not_accounted_of_zero hworker events lifecycle default
      exact hnot (haccounted _ (by simp [hdeeds]))
    · intro hinterval steps hcalm
      exact ((Kept.of_start hworker hinterval events lifecycle).after steps).accounted hcalm

/-- A collector with two slots that is reported every five nanoseconds. -/
def narrow : Collector := ⟨⟨2, some 5, .empty, .created, [], [], [], false, false, 0⟩, 0, true⟩

theorem accounted_narrow : ((begin (Host.fresh () () narrow)).after
    [.submit default, .ask 1, .ask 2, .submit default, .move .setUp 0, .move .take 0,
      .submit default, .shutdown, .move .finish 0, .resume 2, .move .tick 5, .report,
      .move .stop 5, .submit default, .move .take 5, .move .finish 5]).Accounted := by
  have hstart : Collector.start ⟨2, some ⟨5, by decide⟩⟩ =
      .ok (narrow, Collector.startRecord 2) := rfl
  exact (accounted_iff_interval hstart () ()).mpr (by decide) _ (by decide)

/-- With the interval zero a sample that was taken is lost, though no record panicked. -/
theorem not_accounted_zero_interval :
    ¬ ((begin (Host.fresh () () ⟨⟨4, some 0, .empty, .created, [], [], [], false, false, 0⟩, 0,
      true⟩)).after [.submit default, .shutdown, .move .setUp 0]).Accounted := by
  have hstart : Worker.start 4 (some 0) Ledger.empty =
      .ok (⟨4, some 0, .empty, .created, [], [], [], false, false, 0⟩ : Worker Ledger TimingTask) :=
    rfl
  exact (not_accounted_of_zero hstart () () default).2

end CollectorHistory

end ProcessorHost
