import ProcessorHost.Proofs.Timing.Snapshots

/-!
# Samples that do no harm

Samples may be submitted to a collector in any order with everything else, as long as it is not
shut down. Exactly if no number and no sum of them becomes too large for one key, every summary
succeeds, and the collector only says that it runs while its worker does.
-/

namespace ProcessorHost

open TimingEvent

namespace TimingAggregate

lemma ofSamples_append {samples : List TimingSample} {a : TimingAggregate}
    (h : ofSamples samples = .ok a) (sample : TimingSample) :
    ofSamples (samples ++ [sample]) = a.record sample := by
  unfold ofSamples at h ⊢
  rw [List.foldlM_append, h]
  change a.record sample >>= pure = _
  exact bind_pure _

lemma stats_record_lt {s after : TimingStats} {d : Span} (h : s.record d = .ok after) :
    s.count + 1 < 0x10000000000000000 := by
  unfold TimingStats.record at h
  dsimp only at h
  split at h
  · assumption
  · cases h

lemma Tells.fit_record {a after : TimingAggregate} {samples : List TimingSample}
    (h : a.Tells samples) (hfit : TimingSample.Fit samples) {sample : TimingSample}
    (hrecord : a.record sample = .ok after) : TimingSample.Fit (samples ++ [sample]) := by
  intro key
  rw [TimingSample.under_append, TimingSample.under_one]
  by_cases hkey : sample.key = key
  · subst hkey
    unfold TimingAggregate.record at hrecord
    split at hrecord
    · rename_i stats hstats
      obtain ⟨hcount, htotal⟩ := h.getD sample.key
      obtain ⟨-, hsum⟩ := stats_record hstats
      have hlt := stats_record_lt hstats
      have hbound := stats.total.nanos_lt
      rw [if_pos rfl, List.length_append, TimingSample.nanos_append, ← hcount, ← htotal]
      change _ + 1 < _ ∧ _ + (sample.duration.nanos + 0) < _
      omega
    · cases hrecord
  · rw [if_neg hkey, List.append_nil]
    exact hfit key

/-- Exactly the samples that fit can all be recorded. -/
theorem exists_ofSamples_iff (samples : List TimingSample) :
    (∃ a, ofSamples samples = .ok a) ↔ TimingSample.Fit samples := by
  induction samples using List.reverseRecOn with
  | nil => exact ⟨fun _ => .nil, fun _ => ⟨_, rfl⟩⟩
  | append_singleton rest sample ih =>
    constructor
    · rintro ⟨after, hafter⟩
      unfold ofSamples at hafter
      cases hrest : rest.foldlM TimingAggregate.record empty with
      | error e =>
        rw [List.foldlM_append, hrest] at hafter
        cases hafter
      | ok a =>
        have hrecord := (ofSamples_append hrest sample).symm.trans hafter
        exact (tells_ofSamples hrest).fit_record (ih.mp ⟨a, hrest⟩) hrecord
    · intro hfit
      obtain ⟨a, ha⟩ := ih.mpr hfit.of_append
      obtain ⟨after, hafter⟩ := (tells_ofSamples ha).exists_record hfit
      exact ⟨after, (ofSamples_append ha sample).trans hafter⟩

end TimingAggregate

namespace Ledger

variable {l : Ledger} {sample : TimingSample}

lemma run_record_ok {aggregate : TimingAggregate}
    (hrecord : l.aggregate.record sample = .ok aggregate) :
    l.run (.record sample) = .ok { l with aggregate } := by
  unfold run
  dsimp only
  rw [hrecord]

lemma run_record_error {overflow : TimingStats.Overflow}
    {aggregate : TimingAggregate}
    (hrecord : l.aggregate.record sample = .error (overflow, aggregate)) :
    l.run (.record sample) = .error { l with aggregate } := by
  unfold run
  dsimp only
  rw [hrecord]

end Ledger

namespace Worker

variable {w : Worker Ledger TimingTask} {task : TimingTask} {now : Nat}

lemma move_take {rest : List TimingTask} (hphase : w.phase = .waiting)
    (hqueue : w.queue = task :: rest) (hwaiting : w.waiting = []) :
    w.move? Ledger.runnable now .take =
      some { w with phase := .running task now false, queue := rest } := by
  unfold move? release
  dsimp only
  rw [hphase, hqueue]
  dsimp only
  rw [hwaiting]
  rfl

lemma move_finish_ok {ends : Nat} {state : Ledger} (hphase : w.phase = .running task ends false)
    (hends : ends ≤ now) (hrun : w.state.run task = .ok state) :
    w.move? Ledger.runnable now .finish = some { w with state, phase := .waiting } := by
  unfold move?
  dsimp only
  rw [hphase]
  dsimp only
  rw [if_pos hends, show Ledger.runnable.run w.state task = _ from hrun]
  rfl

lemma move_finish_error {ends : Nat} {state : Ledger}
    (hphase : w.phase = .running task ends false) (hends : ends ≤ now)
    (hrun : w.state.run task = .error state) :
    w.move? Ledger.runnable now .finish = some (w.crash state) := by
  unfold move?
  dsimp only
  rw [hphase]
  dsimp only
  rw [if_pos hends, show Ledger.runnable.run w.state task = _ from hrun]

end Worker

/-- The samples that are submitted, in order. -/
def TimingStep.samples (steps : List TimingStep) : List TimingSample :=
  steps.filterMap fun
    | .submit sample => some sample
    | _ => none

namespace TimingDesk

/-- A collector that serves everybody who asks for a summary. -/
structure Unharmed (d : TimingDesk) : Prop where
  succeeds : ∀ answer ∈ d.desk.answers, ∃ a, answer.2 = .ok a
  /-- Every request that was not given up is sure to be answered with a summary. -/
  inevitable : ∀ k < d.desk.asked, k ∉ d.desk.givenUp →
    d.desk.Inevitable fun desk => ∃ a, (k, .ok a) ∈ desk.answers
  /-- It says that it runs only while its worker does, and goes on as long as there are tasks. -/
  working : d.collector.running = true → d.collector.worker.isOver = false ∧
    (d.collector.worker.phase.inHand ++ d.collector.worker.queue ≠ [] →
      ∃ move w, d.collector.worker.move? Ledger.runnable d.desk.now move = some w)

/-- A desk whose samples fit, and that was not shut down. -/
structure Calm (first : Collector) (d : TimingDesk) : Prop where
  sound : d.Sound first
  attended : d.desk.Attended
  fit : TimingSample.Fit (taken d.events)

variable {first : Collector} {d : TimingDesk} {config : TimingConfig} {record : LogRecord}

lemma Calm.safe (h : d.Calm first) (hstart : Collector.start config = .ok (first, record))
    (hinterval : config.reportInterval.map (·.nanos) ≠ some 0) : d.desk.worker.Safe := by
  obtain ⟨steps, hsteps⟩ := h.sound.passed
  obtain ⟨hcollector, haccepted⟩ := hsteps (.alone first) rfl
  have hbegin := CollectorHistory.kept_alone hstart hinterval
  have hkept := hbegin.after steps
  have hsamples : TimingTask.samples ((CollectorHistory.alone first).after steps).accepted =
      taken d.events := by
    rw [haccepted]
    exact samples_tasks d.events
  have hfit : TimingSample.Fit ((CollectorHistory.alone first).after steps).taken := by
    rw [← hkept.taken, hsamples]
    exact h.fit
  have hcalm := hbegin.calm_after nofun steps hfit
  intro task ends stopping hphase
  have hphase' : ((CollectorHistory.alone first).after steps).work.worker.phase =
      .running task ends stopping := (congrArg (·.worker.phase) hcollector).trans hphase
  have hsafe := WorkerHistory.not_error_of_fit hkept.books hkept.folds hcalm
    (show TimingSample.Fit (TimingTask.samples _) from hsamples ▸ h.fit) hphase'
  have hstate : ((CollectorHistory.alone first).after steps).work.worker.state =
      d.desk.worker.state := congrArg (·.worker.state) hcollector
  rw [hstate] at hsafe
  cases hrun : d.desk.worker.state.run task with
  | ok state => exact ⟨state, rfl⟩
  | error state => exact absurd hrun (hsafe state)

lemma taken_seen (d : SummaryDesk) (step : DeskStep) : taken (d.seen step) = [] := by
  have hcalled : taken (if step = .ask then [.called d.asked] else []) = [] := by
    split
    · rfl
    · rfl
  have hadmitted : taken ((d.admitted? step).toList.map .admitted) = [] := by
    cases d.admitted? step with
    | none => rfl
    | some k => rfl
  have hreturned (answers : List (Nat × Except SummaryError TimingAggregate)) :
      taken (answers.map fun answer => .returned answer.1 answer.2) = [] := by
    refine List.filterMap_eq_nil_iff.mpr fun event hevent => ?_
    obtain ⟨answer, -, rfl⟩ := List.mem_map.mp hevent
    rfl
  unfold SummaryDesk.seen
  rw [taken_append, taken_append, hcalled, hadmitted, hreturned]
  rfl

lemma taken_next (d : TimingDesk) (step : TimingStep) :
    (taken (d.next step).events).Sublist (taken d.events ++ TimingStep.samples [step]) := by
  cases step with
  | submit sample =>
    change (taken (d.events ++ [.submitted sample (d.collector.submit sample).2])).Sublist _
    rw [taken_append]
    refine (List.Sublist.refl _).append ?_
    cases (d.collector.submit sample).2 with
    | none => exact .refl _
    | some reason => exact List.nil_sublist _
  | serve step =>
    change (taken (d.events ++ d.desk.seen step)).Sublist _
    rw [taken_append, taken_seen]
    exact .refl _
  | shutdown => exact List.sublist_append_left _ _
  | shutdownReturns =>
    unfold TimingDesk.next
    dsimp only
    split
    · dsimp only
      rw [taken_append]
      exact .refl _
    · exact List.sublist_append_left _ _

theorem Calm.next (h : d.Calm first) (hstart : Collector.start config = .ok (first, record))
    (hinterval : config.reportInterval.map (·.nanos) ≠ some 0) {step : TimingStep}
    (hstep : step ≠ .shutdown)
    (hfit : TimingSample.Fit (taken d.events ++ TimingStep.samples [step])) :
    (d.next step).Calm first := by
  refine ⟨h.sound.next hstart step, ?_, hfit.sublist (d.taken_next step)⟩
  cases step with
  | submit sample => exact h.attended.submit sample
  | serve step =>
    exact h.attended.next (h.safe hstart hinterval) step
  | shutdown => exact absurd rfl hstep
  | shutdownReturns =>
    have hgoing : d.collector.worker.isOver = false := h.attended.attending.not_over
    unfold TimingDesk.next
    dsimp only
    rw [hgoing, if_neg (by simp)]
    exact h.attended

theorem Calm.after (h : d.Calm first) (hstart : Collector.start config = .ok (first, record))
    (hinterval : config.reportInterval.map (·.nanos) ≠ some 0) (steps : List TimingStep)
    (hsteps : .shutdown ∉ steps)
    (hfit : TimingSample.Fit (taken d.events ++ TimingStep.samples steps)) :
    (d.after steps).Calm first := by
  induction steps generalizing d with
  | nil => exact h
  | cons step rest ih =>
    have hsplit : TimingStep.samples (step :: rest) =
        TimingStep.samples [step] ++ TimingStep.samples rest :=
      List.filterMap_append (l := [step])
    rw [hsplit, ← List.append_assoc] at hfit
    have hnext := h.next hstart hinterval (fun heq => hsteps (heq ▸ List.mem_cons_self))
      hfit.of_append
    refine ih hnext (fun hmem => hsteps (List.mem_cons_of_mem _ hmem)) (hfit.sublist ?_)
    exact (d.taken_next step).append_right _

theorem Calm.inevitable (h : d.Calm first) (hstart : Collector.start config = .ok (first, record))
    (hinterval : config.reportInterval.map (·.nanos) ≠ some 0) {k : Nat} (hasked : k < d.desk.asked)
    (hopen : k ∉ d.desk.givenUp) :
    d.desk.Inevitable fun desk => ∃ a, (k, .ok a) ∈ desk.answers := by
  have hattended (desk : SummaryDesk) (hkept : ∃ d : TimingDesk, d.desk = desk ∧ d.Calm first) :
      desk.Attended ∧ desk.worker.Safe := by
    obtain ⟨d, rfl, hcalm⟩ := hkept
    exact ⟨hcalm.attended, hcalm.safe hstart hinterval⟩
  have hgoes (desk desk' : SummaryDesk)
      (hkept : ∃ d : TimingDesk, d.desk = desk ∧ d.Calm first)
      (hprogress : desk.Progress desk') : ∃ d : TimingDesk, d.desk = desk' ∧ d.Calm first := by
    obtain ⟨d, rfl, hcalm⟩ := hkept
    obtain ⟨step, rfl⟩ := hprogress.exists_step
    refine ⟨d.next (.serve step), rfl, hcalm.next hstart hinterval nofun ?_⟩
    rw [show TimingStep.samples [.serve step] = [] from rfl, List.append_nil]
    exact hcalm.fit
  have hcomes := SummaryDesk.Attended.inevitable hattended hgoes ⟨d, rfl, h⟩ hasked hopen
  exact hcomes.mono fun desk hdesk => hdesk.2

theorem Calm.unharmed (h : d.Calm first) (hstart : Collector.start config = .ok (first, record))
    (hinterval : config.reportInterval.map (·.nanos) ≠ some 0) : d.Unharmed where
  succeeds := h.attended.answered
  inevitable k hasked hkept := h.inevitable hstart hinterval hasked hkept
  working _ := by
    refine ⟨h.attended.attending.not_over, fun htasks => ?_⟩
    refine h.attended.attending.exists_move fun hphase hqueue => htasks ?_
    have hphase' : d.collector.worker.phase = .waiting := hphase
    have hqueue' : d.collector.worker.queue = [] := hqueue
    rw [hphase', hqueue']
    rfl

lemma Calm.opened (hstart : Collector.start config = .ok (first, record))
    (hinterval : config.reportInterval.map (·.nanos) ≠ some 0) : (opened first).Calm first := by
  refine ⟨.opened first, ?_, .nil⟩
  obtain ⟨rfl, hcapacity⟩ := CollectorHistory.start_worker hstart
  refine .opened ⟨hcapacity, hinterval, rfl, rfl, .inl rfl, Nat.zero_le _, ?_⟩ rfl rfl
  exact fun hne => absurd rfl hne

/-- The worker waits for samples, and has folded those that came. -/
structure Idle (d : TimingDesk) (samples : List TimingSample) : Prop where
  capacity : 0 < d.collector.worker.capacity
  isOpen : d.collector.worker.closed = false
  phase : d.collector.worker.phase = .waiting
  queue : d.collector.worker.queue = []
  waiting : d.collector.worker.waiting = []
  granted : d.collector.worker.granted = []
  folded : TimingAggregate.ofSamples samples = .ok d.collector.worker.state.aggregate

/-- One sample after the other is submitted and folded. -/
def folding (samples : List TimingSample) : List TimingStep :=
  .serve (.move .setUp) :: samples.flatMap fun sample =>
    [.submit sample, .serve (.move .take), .serve (.move .finish)]

lemma folding_append (samples : List TimingSample) (sample : TimingSample) :
    folding (samples ++ [sample]) =
      folding samples ++ [.submit sample, .serve (.move .take), .serve (.move .finish)] := by
  unfold folding
  rw [List.flatMap_append, List.cons_append]
  rfl

lemma samples_folding (samples : List TimingSample) :
    TimingStep.samples (folding samples) = samples := by
  induction samples using List.reverseRecOn with
  | nil => rfl
  | append_singleton rest sample ih =>
    unfold TimingStep.samples at ih ⊢
    rw [folding_append, List.filterMap_append, ih]
    rfl

lemma shutdown_not_mem_folding (samples : List TimingSample) : .shutdown ∉ folding samples := by
  simp [folding]

lemma after_append (d : TimingDesk) (steps steps' : List TimingStep) :
    d.after (steps ++ steps') = (d.after steps).after steps' := List.foldl_append ..

lemma passes_submit (d : TimingDesk) (sample : TimingSample) :
    ∃ tasks, d.collector.Passes tasks (d.next (.submit sample)).collector :=
  ⟨_, d.collector.passes_submit sample⟩

lemma passes_move (d : TimingDesk) (move : WorkerMove) :
    d.collector.Passes [] (d.next (.serve (.move move))).collector := by
  change d.collector.Passes [] (d.desk.next (.move move)).collector
  cases hmove : d.desk.worker.move? Ledger.runnable d.desk.now move with
  | none =>
    rw [SummaryDesk.next_move_none hmove]
    exact .refl _
  | some w =>
    rw [SummaryDesk.next_move hmove]
    exact Collector.passes_move hmove

lemma over_fold (hover : d.collector.worker.isOver = true) (sample : TimingSample) :
    (d.after [.submit sample, .serve (.move .take), .serve (.move .finish)]).collector.worker.isOver
      = true := by
  obtain ⟨tasks, hsubmit⟩ := d.passes_submit sample
  have hfirst := hsubmit.over hover
  have hsecond := ((d.next (.submit sample)).passes_move .take).over hfirst
  exact (TimingDesk.passes_move _ .finish).over hsecond

lemma worker_next_move {move : WorkerMove} {w : Worker Ledger TimingTask}
    (hmove : d.collector.worker.move? Ledger.runnable d.desk.now move = some w) :
    (d.next (.serve (.move move))).collector.worker = w :=
  congrArg SummaryDesk.worker (SummaryDesk.next_move (d := d.desk) hmove)

lemma now_next_move (d : TimingDesk) (move : WorkerMove) :
    (d.next (.serve (.move move))).desk.now = d.desk.now := by
  change (d.desk.next (.move move)).now = d.desk.now
  cases hmove : d.desk.worker.move? Ledger.runnable d.desk.now move with
  | none => rw [SummaryDesk.next_move_none hmove]
  | some w =>
    rw [SummaryDesk.next_move hmove]
    rfl

lemma Idle.submit {samples : List TimingSample} (h : d.Idle samples) (sample : TimingSample) :
    (d.next (.submit sample)).collector.worker =
      { d.collector.worker with queue := [.record sample] } := by
  have hroom : d.collector.worker.room ≠ 0 := by
    have hpos := h.capacity
    unfold Worker.room
    rw [h.queue, h.granted, List.length_nil, List.length_nil]
    omega
  have haccepts : d.collector.worker.trySubmit (.record sample) =
      .ok { d.collector.worker with queue := [.record sample] } := by
    unfold Worker.trySubmit
    rw [if_neg (by rw [h.isOpen]; exact Bool.false_ne_true), if_neg hroom, h.queue]
    rfl
  change (d.collector.submit sample).1.worker = _
  unfold Collector.submit
  rw [haccepts]

lemma Idle.take {samples : List TimingSample} (h : d.Idle samples) (sample : TimingSample) :
    ((d.next (.submit sample)).next (.serve (.move .take))).collector.worker =
      { d.collector.worker with
        phase := .running (.record sample) d.desk.now false, queue := [] } := by
  have hsubmit := h.submit sample
  have hphase : (d.next (.submit sample)).collector.worker.phase = .waiting := by
    rw [hsubmit]
    exact h.phase
  have hqueue : (d.next (.submit sample)).collector.worker.queue = [.record sample] := by
    rw [hsubmit]
  have hwaiting : (d.next (.submit sample)).collector.worker.waiting = [] := by
    rw [hsubmit]
    exact h.waiting
  rw [worker_next_move (Worker.move_take hphase hqueue hwaiting), hsubmit]
  rfl

lemma Idle.finish {samples : List TimingSample} (h : d.Idle samples) {taken : TimingDesk}
    {sample : TimingSample} (htaken : taken.collector.worker =
      { d.collector.worker with
        phase := .running (.record sample) taken.desk.now false, queue := [] }) :
    (taken.next (.serve (.move .finish))).collector.worker.isOver = true ∨
      (taken.next (.serve (.move .finish))).Idle (samples ++ [sample]) := by
  have hphase : taken.collector.worker.phase = .running (.record sample) taken.desk.now false := by
    rw [htaken]
  have hstate : taken.collector.worker.state = d.collector.worker.state := by rw [htaken]
  cases hrecord : d.collector.worker.state.aggregate.record sample with
  | error e =>
    have hrun := Ledger.run_record_error hrecord
    rw [← hstate] at hrun
    refine .inl ?_
    rw [worker_next_move (Worker.move_finish_error hphase (Nat.le_refl _) hrun)]
    rfl
  | ok aggregate =>
    have hrun := Ledger.run_record_ok hrecord
    rw [← hstate] at hrun
    have hworker := worker_next_move (Worker.move_finish_ok hphase (Nat.le_refl _) hrun)
    rw [htaken] at hworker
    have hfolded := (TimingAggregate.ofSamples_append h.folded sample).trans hrecord
    refine .inr ⟨?_, ?_, ?_, ?_, ?_, ?_, ?_⟩
    all_goals rw [hworker]
    · exact h.capacity
    · exact h.isOpen
    · exact h.waiting
    · exact h.granted
    · exact hfolded

/-- A worker with nothing to do folds a sample that comes, or panics. -/
lemma Idle.fold {samples : List TimingSample} (h : d.Idle samples) (sample : TimingSample) :
    (d.after [.submit sample, .serve (.move .take),
        .serve (.move .finish)]).collector.worker.isOver = true ∨
      (d.after [.submit sample, .serve (.move .take), .serve (.move .finish)]).Idle
        (samples ++ [sample]) := by
  have hnow : ((d.next (.submit sample)).next (.serve (.move .take))).desk.now = d.desk.now :=
    now_next_move _ _
  have htake := h.take sample
  rw [← hnow] at htake
  exact h.finish htake

lemma Idle.begin (hstart : Collector.start config = .ok (first, record))
    (hinterval : config.reportInterval.map (·.nanos) ≠ some 0) :
    ((opened first).after (folding [])).Idle [] := by
  obtain ⟨rfl, hcapacity⟩ := CollectorHistory.start_worker hstart
  cases hperiod : config.reportInterval.map (·.nanos) with
  | none => exact ⟨hcapacity, rfl, rfl, rfl, rfl, rfl, rfl⟩
  | some p =>
    cases p with
    | zero => exact absurd hperiod hinterval
    | succ p => exact ⟨hcapacity, rfl, rfl, rfl, rfl, rfl, rfl⟩

/-- When one sample after the other is folded, the worker has folded all of them in the end, or
one of them has made it panic. -/
theorem folding_idle (hstart : Collector.start config = .ok (first, record))
    (hinterval : config.reportInterval.map (·.nanos) ≠ some 0) (samples : List TimingSample) :
    ((opened first).after (folding samples)).collector.worker.isOver = true ∨
      ((opened first).after (folding samples)).Idle samples := by
  induction samples using List.reverseRecOn with
  | nil => exact .inr (.begin hstart hinterval)
  | append_singleton rest sample ih =>
    rw [folding_append, after_append]
    rcases ih with hover | hidle
    · exact .inl (over_fold hover sample)
    · exact hidle.fold sample

lemma running_serve (d : SummaryDesk) (step : DeskStep) :
    (d.next step).collector.running = d.collector.running := by
  cases step with
  | ask =>
    have hmade : (d.next .ask).collector = (d.collector.ask d.asked).1 := by
      unfold SummaryDesk.next
      exact SummaryDesk.collector_enter _ _ _
    rw [hmade, CollectorHistory.ask_eq]
  | look k =>
    rcases hstanding : d.standing? k with - | request
    · rw [SummaryDesk.look_none hstanding]
    · rw [SummaryDesk.look_eq hstanding, SummaryDesk.collector_enter]
      change (d.collector.resume k request).1.running = _
      cases request with
      | queued => rfl
      | waiting => rw [CollectorHistory.resume_eq]
  | giveUp k =>
    rcases d.standing?_cases k with ⟨-, hstanding⟩ | ⟨-, -, hstanding⟩ | hstanding
    · rw [SummaryDesk.giveUp_waiting hstanding]
      rfl
    · rw [SummaryDesk.giveUp_queued hstanding]
      rfl
    · rw [SummaryDesk.giveUp_none hstanding]
  | move move =>
    cases hmove : d.worker.move? Ledger.runnable d.now move with
    | none => rw [SummaryDesk.next_move_none hmove]
    | some w =>
      rw [SummaryDesk.next_move hmove]
      rfl
  | wait time => rfl
  | report => rfl

lemma running_next (d : TimingDesk) {step : TimingStep} (hstep : step ≠ .shutdown) :
    (d.next step).collector.running = d.collector.running := by
  cases step with
  | submit sample =>
    change (d.collector.submit sample).1.running = _
    unfold Collector.submit
    split
    · rfl
    · rfl
    · rfl
  | serve step => exact running_serve d.desk step
  | shutdown => exact absurd rfl hstep
  | shutdownReturns =>
    unfold TimingDesk.next
    dsimp only
    split
    · rfl
    · rfl

lemma running_after (d : TimingDesk) {steps : List TimingStep} (hsteps : .shutdown ∉ steps) :
    (d.after steps).collector.running = d.collector.running := by
  induction steps generalizing d with
  | nil => rfl
  | cons step rest ih =>
    have hrest := ih (d.next step) fun hmem => hsteps (List.mem_cons_of_mem _ hmem)
    exact hrest.trans (d.running_next fun heq => hsteps (heq ▸ List.mem_cons_self))

/-- Samples do no harm to a collector exactly if they fit. -/
theorem unharmed_iff_fit (hstart : Collector.start config = .ok (first, record))
    (hinterval : config.reportInterval.map (·.nanos) ≠ some 0) (samples : List TimingSample) :
    (∀ steps, TimingStep.samples steps = samples → .shutdown ∉ steps →
      ((opened first).after steps).Unharmed) ↔ TimingSample.Fit samples := by
  constructor
  · intro hall
    have hunharmed := hall (folding samples) (samples_folding samples)
      (shutdown_not_mem_folding samples)
    have hrunning : ((opened first).after (folding samples)).collector.running = true := by
      obtain ⟨rfl, -⟩ := CollectorHistory.start_worker hstart
      exact running_after _ (shutdown_not_mem_folding samples)
    -- It says that it runs, so none of the samples has made it panic.
    obtain ⟨hgoing, -⟩ := hunharmed.working hrunning
    rcases folding_idle hstart hinterval samples with hover | hidle
    · rw [hgoing] at hover
      cases hover
    · exact (TimingAggregate.exists_ofSamples_iff samples).mp ⟨_, hidle.folded⟩
  · intro hfit steps hsamples hsteps
    have hcalm := (Calm.opened hstart hinterval).after hstart hinterval steps hsteps
      (by rw [hsamples]; exact hfit)
    exact hcalm.unharmed hstart hinterval

/-- Two samples that fit, one of them the longest there is, and two requests. -/
theorem unharmed_narrow : ((opened CollectorHistory.narrow).after
    [.submit ⟨default, ⟨0x10000000000000000 * 1000000000 - 1, by decide⟩, default⟩, .submit default,
      .serve .ask, .serve (.move .setUp), .serve (.move .take), .serve (.look 0), .serve .ask,
      .serve (.move .finish), .serve (.giveUp 1), .serve (.wait 7),
      .serve (.move .tick)]).Unharmed := by
  have hstart : Collector.start ⟨2, some ⟨5, by decide⟩⟩ =
      .ok (CollectorHistory.narrow, Collector.startRecord 2) := rfl
  refine (unharmed_iff_fit hstart (by decide) _).mpr ?_ _ rfl (by decide)
  exact .of_total (by decide) (by decide)

/-- A collector with four slots. -/
def quiet : Collector := ⟨⟨4, none, .empty, .created, [], [], [], false, false, 0⟩, 0, true⟩

/-- Two samples of one key that are too long together. -/
def longSteps : List TimingStep :=
  [.submit ⟨default, .ofNanosOrMax (0x10000000000000000 * 1000000000), default⟩,
    .submit ⟨default, .ofNanosOrMax 1, default⟩, .serve .ask, .serve (.move .setUp),
    .serve (.move .take), .serve (.move .finish), .serve (.move .take), .serve (.move .finish),
    .serve (.look 0)]

/-- The request fails, and the collector says that it runs while its worker has broken down. -/
theorem harmed_by_long_samples :
    Collector.start ⟨4, none⟩ = .ok (quiet, Collector.startRecord 4) ∧ .shutdown ∉ longSteps ∧
      ((opened quiet).after longSteps).desk.answers = [(0, .error .stoppedBeforeReply)] ∧
      ((opened quiet).after longSteps).collector.running = true ∧
      ((opened quiet).after longSteps).collector.worker.isOver = true ∧
      ¬ ((opened quiet).after longSteps).Unharmed := by
  refine ⟨rfl, by decide, rfl, rfl, rfl, fun hunharmed => ?_⟩
  obtain ⟨a, hanswer⟩ := hunharmed.succeeds (0, .error .stoppedBeforeReply) List.mem_cons_self
  cases hanswer

end TimingDesk

end ProcessorHost
