import ProcessorHost.Host.State
import ProcessorHost.Proofs.Worker.Order

/-!
# Histories of collectors

A history keeps, beside a host, what became of each sample that was submitted to its timing
collector, the tasks that the collector's worker accepted, and the worker's deeds. Samples and
requests for summaries come from any number of handles, and the worker moves in between. For the
worker each step is one of its own steps, or none; only a submission can drop a sample.
-/

namespace ProcessorHost

variable {E L : Type}

/-- Hands samples over, one after the other. -/
def Collector.submitAll (c : Collector) (samples : List TimingSample) : Collector :=
  samples.foldl (fun c sample => (c.submit sample).1) c

lemma Collector.submitAll_append (c : Collector) (samples samples' : List TimingSample) :
    c.submitAll (samples ++ samples') = (c.submitAll samples).submitAll samples' :=
  List.foldl_append ..

lemma Host.timing_submit (host : Host E L) (sample : TimingSample) :
    (host.submit sample).timing = (host.timing.submit sample).1 := by
  unfold Host.submit
  split
  · rename_i heq
    rw [heq]
  · rename_i heq
    rw [heq]
    rfl

inductive CollectorStep
  | submit (sample : TimingSample)
  | move (move : WorkerMove) (now : Nat)
  | ask (request : Nat)
  | resume (request : Nat)
  | giveUp (request : Nat)
  | shutdown
  | abandon
  /-- What the worker has logged is passed on. -/
  | report
deriving DecidableEq, Repr

structure CollectorHistory (E L : Type) where
  host : Host E L
  /-- In the order of submission, with the reason of those that were dropped. -/
  submissions : List (TimingSample × Option DropReason)
  accepted : List TimingTask
  deeds : List (Deed TimingTask)

def TimingTask.samples (tasks : List TimingTask) : List TimingSample :=
  tasks.filterMap fun
    | .record sample => some sample
    | .summary _ => none

lemma TimingTask.samples_append (tasks tasks' : List TimingTask) :
    samples (tasks ++ tasks') = samples tasks ++ samples tasks' := List.filterMap_append

namespace CollectorHistory

def begin (host : Host E L) : CollectorHistory E L := ⟨host, [], [], []⟩

def collector (h : CollectorHistory E L) : Collector := h.host.timing

/-- The history of the collector's worker. -/
def work (h : CollectorHistory E L) : WorkerHistory Ledger TimingTask :=
  ⟨h.collector.worker, h.accepted, h.deeds⟩

/-- The samples that were not dropped, in the order of submission. -/
def taken (h : CollectorHistory E L) : List TimingSample :=
  (h.submissions.filter fun s => s.2.isNone).map Prod.fst

/-- The samples that were folded into the aggregate, in order. -/
def folded (h : CollectorHistory E L) : List TimingSample :=
  TimingTask.samples (Deed.tasks h.deeds)

/-- The samples in the hand of the worker and in its queue, the oldest first. -/
def pending (h : CollectorHistory E L) : List TimingSample :=
  TimingTask.samples (h.collector.worker.phase.inHand ++ h.collector.worker.queue)

def setCollector (h : CollectorHistory E L) (timing : Collector) : CollectorHistory E L :=
  { h with host := { h.host with timing } }

/-- The history after one step; a move that is not possible is no step. -/
def next (h : CollectorHistory E L) : CollectorStep → CollectorHistory E L
  | .submit sample =>
    let reason := (h.collector.submit sample).2
    { h with
      host := h.host.submit sample
      submissions := h.submissions ++ [(sample, reason)]
      accepted := h.accepted ++ if reason = none then [.record sample] else [] }
  | .move move now =>
    match h.collector.worker.move? Ledger.runnable now move with
    | some worker =>
      { h.setCollector { h.collector with worker } with
        deeds := h.deeds ++ (h.collector.worker.deed? Ledger.runnable move).toList }
    | none => h
  | .ask request =>
    let submission := (h.collector.worker.submit request (.summary request)).2
    { h.setCollector (h.collector.ask request).1 with
      accepted := h.accepted ++ (submission.accepts (.summary request)).toList }
  | .resume request =>
    let submission := (h.collector.worker.resume request (.summary request)).2
    { h.setCollector (h.collector.resume request .waiting).1 with
      accepted := h.accepted ++ (submission.accepts (.summary request)).toList }
  | .giveUp request =>
    h.setCollector { h.collector with worker := h.collector.worker.abandon request }
  | .shutdown => h.setCollector h.collector.shutdown
  | .abandon => h.setCollector h.collector.abandon
  | .report =>
    let worker := h.collector.worker
    let h := h.setCollector
      { h.collector with worker := { worker with state := { worker.state with log := [] } } }
    { h with host := h.host.noteAll worker.state.log }

def after (h : CollectorHistory E L) (steps : List CollectorStep) : CollectorHistory E L :=
  steps.foldl next h

/-- What a step may be for the samples. -/
inductive Effect (h h' : CollectorHistory E L) : Prop
  | takes (sample : TimingSample) (work : WorkerHistory.Effect Ledger.runnable h.work h'.work)
      (accepted : h'.accepted = h.accepted ++ [.record sample])
      (submissions : h'.submissions = h.submissions ++ [(sample, none)])
      (dropped : h'.collector.dropped = h.collector.dropped)
      (metrics : h'.host.metrics = h.host.metrics)
  | drops (sample : TimingSample) (reason : DropReason) (work : h'.work = h.work)
      (submissions : h'.submissions = h.submissions ++ [(sample, some reason)])
      (dropped : h'.collector.dropped = h.collector.dropped + 1)
      (metrics : h'.host.metrics = h.host.metrics.increment reason.counter)
  | works (work : WorkerHistory.Effect Ledger.runnable h.work h'.work)
      (samples : TimingTask.samples h'.accepted = TimingTask.samples h.accepted)
      (submissions : h'.submissions = h.submissions)
      (dropped : h'.collector.dropped = h.collector.dropped)
      (metrics : h'.host.metrics = h.host.metrics)
  | reports (log : List LogRecord)
      (work : h'.work = { h.work with worker := { h.work.worker with
        state := { h.work.worker.state with log } } })
      (submissions : h'.submissions = h.submissions)
      (dropped : h'.collector.dropped = h.collector.dropped)
      (metrics : h'.host.metrics = h.host.metrics)

variable {h h' : CollectorHistory E L}

/-- A sample that is submitted is accepted by the worker, or dropped and counted. -/
lemma submit_effect (h : CollectorHistory E L) (sample : TimingSample) :
    Effect h (h.next (.submit sample)) := by
  have hdrop (reason : DropReason)
      (hsubmit : h.collector.submit sample =
        ({ h.collector with dropped := h.collector.dropped + 1 }, some reason)) :
      Effect h (h.next (.submit sample)) := by
    have hhost : h.host.submit sample =
        ({ h.host with timing := { h.collector with dropped := h.collector.dropped + 1 } }.count
          reason.counter).note (Collector.dropRecord sample reason) := by
      unfold Host.submit
      rw [show h.host.timing.submit sample = _ from hsubmit]
    unfold next
    dsimp only
    rw [hsubmit, hhost]
    exact .drops sample reason (by simp [work, collector, Host.note, Host.count]) rfl rfl rfl
  rcases h.collector.worker.trySubmit_cases (.record sample) with ⟨w', heq, hadmits⟩ | heq | heq
  · have hsubmit : h.collector.submit sample = ({ h.collector with worker := w' }, none) := by
      unfold Collector.submit
      rw [heq]
    have hhost : h.host.submit sample =
        { h.host with timing := { h.collector with worker := w' } } := by
      unfold Host.submit
      rw [show h.host.timing.submit sample = _ from hsubmit]
    unfold next
    dsimp only
    rw [hsubmit, hhost]
    exact .takes sample (.admits hadmits rfl rfl) rfl rfl rfl rfl
  · apply hdrop .queueFull
    unfold Collector.submit
    rw [heq]
  · apply hdrop .collectorStopped
    unfold Collector.submit
    rw [heq]

lemma summary_effect (h : CollectorHistory E L) (request : Nat) {worker : Worker Ledger TimingTask}
    {submission : Worker.Submission}
    (hadmits : h.collector.worker.Admits (submission.accepts (.summary request)) worker) :
    Effect h { h.setCollector { h.collector with worker } with
      accepted := h.accepted ++ (submission.accepts (.summary request)).toList } := by
  refine .works (.admits hadmits rfl rfl) ?_ rfl rfl rfl
  dsimp only
  rw [TimingTask.samples_append]
  cases submission with
  | _ => exact List.append_nil _

lemma ask_eq (c : Collector) (request : Nat) :
    (c.ask request).1 = { c with worker := (c.worker.submit request (.summary request)).1 } := by
  unfold Collector.ask
  split
  · rename_i heq
    rw [heq]
  · rename_i heq
    rw [heq]
  · rename_i heq
    rw [heq]

lemma resume_eq (c : Collector) (request : Nat) :
    (c.resume request .waiting).1 =
      { c with worker := (c.worker.resume request (.summary request)).1 } := by
  unfold Collector.resume
  dsimp only
  split
  · rename_i heq
    rw [heq]
  · rename_i heq
    rw [heq]
  · rename_i heq
    rw [heq]

lemma same_effect (h : CollectorHistory E L) {timing : Collector}
    (hsame : h.collector.worker.SameWork timing.worker)
    (hdropped : timing.dropped = h.collector.dropped) : Effect h (h.setCollector timing) :=
  .works (.admits (.same hsame) (List.append_nil _).symm rfl) rfl rfl hdropped rfl

/-- Every step takes a sample, drops one, or is about none. -/
theorem next_effect (h : CollectorHistory E L) (step : CollectorStep) : Effect h (h.next step) := by
  have hstop : h.collector.worker.SameWork h.collector.worker.askStop :=
    ⟨rfl, rfl, rfl, rfl, rfl, rfl, Nat.le_refl _⟩
  have hnone : Effect h h :=
    .works (.admits (.same (Worker.SameWork.refl _)) (List.append_nil _).symm rfl) rfl rfl rfl rfl
  cases step with
  | submit sample => exact submit_effect h sample
  | move move now =>
    unfold next
    dsimp only
    split
    · rename_i worker heq
      exact .works (.moves (Worker.moves_of_move? heq) rfl rfl) rfl rfl rfl rfl
    · exact hnone
  | ask request =>
    unfold next
    dsimp only
    rw [ask_eq]
    exact summary_effect h request (Worker.submit_admits _ _ _)
  | resume request =>
    unfold next
    dsimp only
    rw [resume_eq]
    exact summary_effect h request (Worker.resume_admits _ _ _)
  | giveUp request => exact same_effect h (Worker.abandon_same _ _) rfl
  | shutdown =>
    unfold next Collector.shutdown
    dsimp only
    split
    · exact same_effect h hstop rfl
    · exact hnone
  | abandon => exact same_effect h hstop rfl
  | report => exact .reports [] rfl rfl rfl rfl

lemma dropped_next (h : CollectorHistory E L) {step : CollectorStep}
    (hstep : ∀ sample, step ≠ .submit sample) :
    (h.next step).submissions = h.submissions ∧
      (h.next step).collector.dropped = h.collector.dropped := by
  have hsubmissions : (h.next step).submissions = h.submissions := by
    cases step with
    | submit sample => exact absurd rfl (hstep sample)
    | move move now =>
      unfold next
      dsimp only
      split
      · rfl
      · rfl
    | _ => rfl
  refine ⟨hsubmissions, ?_⟩
  cases next_effect h step with
  | takes sample work accepted submissions dropped metrics => exact dropped
  | drops sample reason work submissions dropped metrics =>
    rw [hsubmissions] at submissions
    simp at submissions
  | works work samples submissions dropped metrics => exact dropped
  | reports log work submissions dropped metrics => exact dropped

end CollectorHistory

end ProcessorHost
