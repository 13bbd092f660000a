import ProcessorHost.Proofs.Timing.Aggregation

/-!
# Summaries of a drained collector

Samples reach a collector in any order, mixed with whatever else happens to it. Once all of them
have been folded and no more are submitted, its aggregate stays as it is, and what it replies from
then on tells of all the samples that it was handed.
-/

namespace ProcessorHost

variable {E L E' L' : Type}

namespace TimingSample

variable {samples samples' : List TimingSample}

lemma perm_under (h : samples.Perm samples') (key : TimingKey) :
    (under key samples).Perm (under key samples') := h.filter _

lemma nanos_of_perm (h : samples.Perm samples') : nanos samples = nanos samples' :=
  (h.map _).sum_nat

lemma Fit.perm (h : Fit samples) (hperm : samples.Perm samples') : Fit samples' := by
  intro key
  have hkey := perm_under hperm key
  rw [← hkey.length_eq, ← nanos_of_perm hkey]
  exact h key

end TimingSample

/-- The order of the samples does not matter. -/
lemma TimingAggregate.Tells.perm {a : TimingAggregate} {samples samples' : List TimingSample}
    (h : a.Tells samples) (hperm : samples.Perm samples') : a.Tells samples' := by
  refine ⟨h.increasing, fun key stats hget => ?_, fun key stats hget => ?_, fun key => ?_⟩
  · rw [← (TimingSample.perm_under hperm key).length_eq]
    exact h.count key stats hget
  · rw [← TimingSample.nanos_of_perm (TimingSample.perm_under hperm key)]
    exact h.total key stats hget
  · rw [h.absent key, ← List.length_eq_zero_iff, (TimingSample.perm_under hperm key).length_eq,
      List.length_eq_zero_iff]

/-- A step that hands the collector no sample. -/
def CollectorStep.IsQuiet (step : CollectorStep) : Prop := ∀ sample, step ≠ .submit sample

namespace CollectorHistory

/-- What is kept beside a collector makes no difference to it. -/
lemma collector_next {h : CollectorHistory E L} {h' : CollectorHistory E' L'}
    (hsame : h'.collector = h.collector) (step : CollectorStep) :
    (h'.next step).collector = (h.next step).collector := by
  unfold next
  cases step with
  | submit sample =>
    change (h'.host.submit sample).timing = (h.host.submit sample).timing
    rw [Host.timing_submit, Host.timing_submit]
    exact congrArg (fun c => (c.submit sample).1) hsame
  | move move now =>
    dsimp only
    rw [hsame]
    cases h.collector.worker.move? Ledger.runnable now move with
    | none => exact hsame
    | some worker => rfl
  | ask request | resume request | giveUp request | shutdown | abandon | report =>
    dsimp only
    rw [hsame]
    rfl

end CollectorHistory

namespace Worker

variable {w w' : Worker Ledger TimingTask} {deed : Option (Deed TimingTask)}

/-- With the interval zero a worker breaks down before it does anything. -/
structure Stillborn (w : Worker Ledger TimingTask) : Prop where
  period : w.period = some 0
  phase : w.phase = .created ∨ w.phase = .crashed
  replies : w.state.replies = []

lemma Stillborn.moves (h : w.Stillborn) (hmove : w.Moves Ledger.runnable deed w') :
    w'.Stillborn := by
  have hwaits {phase : WorkerPhase TimingTask} (hphase : w.phase = phase)
      (hcreated : phase ≠ .created) (hcrashed : phase ≠ .crashed) : False :=
    h.phase.elim (fun heq => hcreated (hphase.symm.trans heq))
      fun heq => hcrashed (hphase.symm.trans heq)
  cases hmove with
  | breaksDown hphase hperiod => exact ⟨hperiod, .inr rfl, h.replies⟩
  | begins nextTick hphase hperiod => exact absurd h.period hperiod
  | takes task rest ends waiting granted hphase | takesLate task rest ends hphase
  | runs task ends stopping state hphase | panics task ends stopping state hphase
  | ticks nextTick state hphase | tickPanics state hphase | stops hphase | windsUp state hphase
  | windUpPanics state hphase => exact (hwaits hphase (by simp) (by simp)).elim

lemma Stillborn.admits {task : Option TimingTask} (h : w.Stillborn) (hadmits : w.Admits task w') :
    w'.Stillborn := by
  cases hadmits with
  | same hsame =>
    exact ⟨hsame.period.trans h.period, hsame.phase ▸ h.phase, hsame.state ▸ h.replies⟩
  | accepts task granted hopen hslots => exact ⟨h.period, h.phase, h.replies⟩

/-- No sample is left to be folded, and what was not replied before is the aggregate. -/
structure Drained (a : TimingAggregate) (before : List (Nat × TimingAggregate))
    (w : Worker Ledger TimingTask) : Prop where
  samples : TimingTask.samples (w.phase.inHand ++ w.queue) = []
  aggregate : w.state.aggregate = a
  replies : ∀ reply ∈ w.state.replies, reply ∈ before ∨ reply.2 = a

variable {a : TimingAggregate} {before : List (Nat × TimingAggregate)}

lemma Drained.moves (h : w.Drained a before) (hmove : w.Moves Ledger.runnable deed w') :
    w'.Drained a before := by
  have hsamples := h.samples
  cases hmove with
  | breaksDown hphase hperiod => exact ⟨rfl, h.aggregate, h.replies⟩
  | begins nextTick hphase hperiod =>
    rw [hphase] at hsamples
    exact ⟨hsamples, h.aggregate, h.replies⟩
  | takes task rest ends waiting granted hphase hqueue hgranted =>
    rw [hphase, hqueue] at hsamples
    exact ⟨hsamples, h.aggregate, h.replies⟩
  | takesLate task rest ends hphase hqueue =>
    rw [hphase, hqueue] at hsamples
    exact ⟨hsamples, h.aggregate, h.replies⟩
  | runs task ends stopping state hphase hrun =>
    rw [hphase] at hsamples
    cases task with
    | record sample => cases hsamples
    | summary request =>
      cases hrun
      refine ⟨?_, h.aggregate, fun reply hreply => ?_⟩
      · cases stopping with
        | true => exact hsamples
        | false => exact hsamples
      · rcases List.mem_append.mp hreply with hreply | hreply
        · exact h.replies reply hreply
        · rw [List.mem_singleton.mp hreply]
          exact .inr h.aggregate
  | panics task ends stopping state hphase hrun =>
    rw [hphase] at hsamples
    cases task with
    | record sample => cases hsamples
    | summary request => cases hrun
  | ticks nextTick state hphase htick =>
    cases htick
    exact ⟨hsamples, h.aggregate, h.replies⟩
  | tickPanics state hphase htick => cases htick
  | stops hphase hasked =>
    rw [hphase] at hsamples
    exact ⟨hsamples, h.aggregate, h.replies⟩
  | windsUp state hphase hqueue hhook =>
    cases hhook
    rw [hphase] at hsamples
    exact ⟨hsamples, h.aggregate, h.replies⟩
  | windUpPanics state hphase hqueue hhook => cases hhook

lemma Drained.admits {task : Option TimingTask} (h : w.Drained a before)
    (hadmits : w.Admits task w') (hnone : TimingTask.samples task.toList = []) :
    w'.Drained a before := by
  cases hadmits with
  | same hsame =>
    refine ⟨?_, hsame.state ▸ h.aggregate, hsame.state ▸ h.replies⟩
    rw [hsame.phase, hsame.queue]
    exact h.samples
  | accepts task granted hopen hslots =>
    refine ⟨?_, h.aggregate, h.replies⟩
    change TimingTask.samples (w.phase.inHand ++ (w.queue ++ [task])) = []
    rw [← List.append_assoc, TimingTask.samples_append, h.samples]
    exact hnone

end Worker

namespace CollectorHistory

variable {h h' : CollectorHistory E L} {a : TimingAggregate} {before : List (Nat × TimingAggregate)}

lemma after_append (h : CollectorHistory E L) (steps : List CollectorStep) (step : CollectorStep) :
    h.after (steps ++ [step]) = (h.after steps).next step := List.foldl_append ..

/-- The history of a collector with nothing around it. -/
def alone (c : Collector) : CollectorHistory Unit Unit := begin (Host.fresh () () c)

variable {config : TimingConfig} {c : Collector} {record : LogRecord}

lemma kept_alone (hstart : Collector.start config = .ok (c, record))
    (hinterval : config.reportInterval.map (·.nanos) ≠ some 0) : (alone c).Kept := by
  unfold Collector.start at hstart
  split at hstart
  · cases hstart
  · rename_i worker hworker
    cases hstart
    exact Kept.of_start hworker hinterval () ()

lemma stillborn_alone (hstart : Collector.start config = .ok (c, record))
    (hinterval : config.reportInterval.map (·.nanos) = some 0) :
    (alone c).collector.worker.Stillborn := by
  unfold Collector.start at hstart
  split at hstart
  · cases hstart
  · rename_i worker hworker
    cases hstart
    obtain rfl := WorkerHistory.start_eq hworker
    exact ⟨hinterval, .inl rfl, rfl⟩

lemma stillborn_effect (hborn : h.collector.worker.Stillborn) (heffect : Effect h h') :
    h'.collector.worker.Stillborn := by
  have hwork (work : WorkerHistory.Effect Ledger.runnable h.work h'.work) :
      h'.collector.worker.Stillborn := by
    cases work with
    | moves hmove accepted deeds => exact hborn.moves hmove
    | admits hadmits accepted deeds => exact hborn.admits hadmits
  cases heffect with
  | takes sample work => exact hwork work
  | works work => exact hwork work
  | drops sample reason work =>
    have hworker : h'.collector.worker = h.collector.worker := congrArg (·.worker) work
    rwa [hworker]
  | reports log work =>
    have hworker : h'.collector.worker = _ := congrArg (·.worker) work
    rw [hworker]
    exact ⟨hborn.period, hborn.phase, hborn.replies⟩

lemma stillborn_after (hborn : h.collector.worker.Stillborn) (steps : List CollectorStep) :
    (h.after steps).collector.worker.Stillborn := by
  induction steps generalizing h with
  | nil => exact hborn
  | cons step rest ih => exact ih (stillborn_effect hborn (next_effect h step))

lemma drained_next (hdrained : h.collector.worker.Drained a before) {step : CollectorStep}
    (hquiet : step.IsQuiet) : (h.next step).collector.worker.Drained a before := by
  obtain ⟨hsubmissions, -⟩ := dropped_next h hquiet
  cases next_effect h step with
  | takes sample work accepted submissions dropped metrics =>
    rw [hsubmissions] at submissions
    simp at submissions
  | drops sample reason work submissions dropped metrics =>
    rw [hsubmissions] at submissions
    simp at submissions
  | works work samples submissions dropped metrics =>
    cases work with
    | moves hmove accepted deeds => exact hdrained.moves hmove
    | @admits task hadmits accepted deeds =>
      refine hdrained.admits hadmits ?_
      have haccepted : (h.next step).accepted = h.accepted ++ task.toList := accepted
      rw [haccepted, TimingTask.samples_append] at samples
      exact List.append_right_eq_self.mp samples
  | reports log work submissions dropped metrics =>
    have hworker : (h.next step).collector.worker = _ := congrArg (·.worker) work
    rw [hworker]
    exact ⟨hdrained.samples, hdrained.aggregate, hdrained.replies⟩

/-- As long as no samples come, a drained collector replies the same to every request. -/
theorem drained_after (hdrained : h.collector.worker.Drained a before)
    {steps : List CollectorStep} (hquiet : ∀ step ∈ steps, step.IsQuiet) :
    (h.after steps).collector.worker.Drained a before := by
  induction steps generalizing h with
  | nil => exact hdrained
  | cons step rest ih =>
    exact ih (drained_next hdrained (hquiet step List.mem_cons_self))
      fun later hlater => hquiet later (List.mem_cons_of_mem _ hlater)

end CollectorHistory

namespace Collector

variable {first c : Collector} {samples samples' : List TimingSample}

/-- A request has a reply if the worker has given one. -/
lemma mem_replies_of_reply {request : Nat} {a : TimingAggregate}
    (h : c.reply request = .done (.ok a)) : (request, a) ∈ c.worker.state.replies := by
  unfold reply at h
  split at h
  · rename_i k aggregate hfind
    have hkey : k = request := by simpa using List.find?_some hfind
    cases h
    exact hkey ▸ List.mem_of_find?_eq_some hfind
  · split at h
    · cases h
    · cases h

/-- A collector that was handed some samples, in whatever order and whatever else happened to
it. -/
def Handed (first : Collector) (samples : List TimingSample) (c : Collector) : Prop :=
  ∃ steps, ((CollectorHistory.alone first).after steps).collector = c ∧
    (((CollectorHistory.alone first).after steps).submissions.map Prod.fst).Perm samples

lemma Handed.begin (first : Collector) : Handed first [] first := ⟨[], rfl, .refl _⟩

lemma Handed.perm (h : Handed first samples c) (hperm : samples.Perm samples') :
    Handed first samples' c := by
  obtain ⟨steps, hcollector, hsubmissions⟩ := h
  exact ⟨steps, hcollector, hsubmissions.trans hperm⟩

lemma Handed.submit (h : Handed first samples c) (sample : TimingSample) :
    Handed first (samples ++ [sample]) (c.submit sample).1 := by
  obtain ⟨steps, rfl, hsubmissions⟩ := h
  refine ⟨steps ++ [.submit sample], ?_, ?_⟩
  · rw [CollectorHistory.after_append]
    exact Host.timing_submit _ _
  · rw [CollectorHistory.after_append]
    change (List.map _ (_ ++ [_])).Perm _
    rw [List.map_append]
    exact hsubmissions.append_right _

lemma Handed.submitAll (h : Handed first samples c) (new : List TimingSample) :
    Handed first (samples ++ new) (c.submitAll new) := by
  induction new generalizing c samples with
  | nil => exact h.perm (by rw [List.append_nil])
  | cons sample rest ih =>
    have hrest := ih (h.submit sample)
    rw [List.append_assoc] at hrest
    exact hrest

lemma Handed.quiet {host : Host E L} (h : Handed first samples host.timing) {step : CollectorStep}
    (hquiet : step.IsQuiet) :
    Handed first samples ((CollectorHistory.begin host).next step).host.timing := by
  obtain ⟨steps, hcollector, hsubmissions⟩ := h
  refine ⟨steps ++ [step], ?_, ?_⟩
  · rw [CollectorHistory.after_append]
    exact CollectorHistory.collector_next (h := CollectorHistory.begin host) hcollector step
  · rw [CollectorHistory.after_append]
    rw [(CollectorHistory.dropped_next _ hquiet).1]
    exact hsubmissions

variable {config : TimingConfig} {record : LogRecord}

/-- If none was dropped and all have been folded, the aggregate tells of all samples. -/
lemma Handed.aggregate (hstart : start config = .ok (first, record))
    (hinterval : config.reportInterval.map (·.nanos) ≠ some 0) (h : Handed first samples c)
    (hdropped : c.dropped = 0) (hfit : TimingSample.Fit samples)
    (hdrained : TimingTask.samples (c.worker.phase.inHand ++ c.worker.queue) = []) :
    c.worker.state.aggregate.Tells samples := by
  obtain ⟨steps, rfl, hsubmissions⟩ := h
  have hkept := CollectorHistory.kept_alone hstart hinterval
  have hafter := hkept.after steps
  have htaken : ((CollectorHistory.alone first).after steps).taken =
      ((CollectorHistory.alone first).after steps).submissions.map Prod.fst := by
    have hcount := hafter.dropped
    rw [hdropped, Nat.add_zero] at hcount
    unfold CollectorHistory.taken at hcount ⊢
    rw [List.length_map] at hcount
    rw [List.filter_eq_self.mpr (List.length_filter_eq_length_iff.mp hcount.symm)]
  rw [← htaken] at hsubmissions
  have hcalm := hkept.calm_after (fun deed hdeed => nomatch hdeed) steps
    (hfit.perm hsubmissions.symm)
  exact (hafter.tells hcalm hdrained).perm hsubmissions

/-- If none was dropped and all have been folded, and no more come, every new reply tells of all
samples. -/
theorem Handed.reply (hstart : start config = .ok (first, record)) {host : Host E L}
    (h : Handed first samples host.timing) (hdropped : host.timing.dropped = 0)
    (hfit : TimingSample.Fit samples) (hdrained : (CollectorHistory.begin host).pending = [])
    {steps : List CollectorStep} (hquiet : ∀ step ∈ steps, step.IsQuiet) {request : Nat}
    (hnew : request ∉ host.timing.worker.state.replies.map Prod.fst) {a : TimingAggregate}
    (hreply : ((CollectorHistory.begin host).after steps).collector.reply request =
      .done (.ok a)) : a.Tells samples := by
  have hmem := mem_replies_of_reply hreply
  by_cases hinterval : config.reportInterval.map (·.nanos) = some 0
  · -- The worker never replies at all.
    obtain ⟨before, hcollector, -⟩ := h
    have hborn := CollectorHistory.stillborn_after
      (CollectorHistory.stillborn_alone hstart hinterval) before
    rw [hcollector] at hborn
    have hafter := CollectorHistory.stillborn_after (h := CollectorHistory.begin host) hborn steps
    rw [hafter.replies] at hmem
    cases hmem
  · have htells := h.aggregate hstart hinterval hdropped hfit hdrained
    have hafter := CollectorHistory.drained_after (h := CollectorHistory.begin host)
      ⟨hdrained, rfl, fun reply hreply => .inl hreply⟩ hquiet
    rcases hafter.replies _ hmem with hbefore | haggregate
    · exact absurd (List.mem_map_of_mem hbefore) hnew
    · obtain rfl : a = _ := haggregate
      exact htells

end Collector

end ProcessorHost
