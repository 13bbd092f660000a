import ProcessorHost.Proofs.Timing.SummaryProgress
import ProcessorHost.Proofs.Worker.Order

/-!
# Collectors that answer

A collector to which nobody submits a sample, and which nobody shuts down, has nothing to tell but
the empty summary. It tells this to everybody who asks, exactly if its report interval is not zero.
-/

namespace ProcessorHost

namespace Worker

variable {w w' : Worker Ledger TimingTask} {now : Nat}

/-- A worker to which no sample has come. -/
structure Sampleless (w : Worker Ledger TimingTask) : Prop where
  tasks : ∀ task ∈ w.phase.inHand ++ w.queue, ∃ k, task = .summary k
  aggregate : w.state.aggregate = .empty
  replies : ∀ reply ∈ w.state.replies, reply.2 = .empty

lemma Sampleless.safe (h : w.Sampleless) : w.Safe := by
  intro task ends stopping hphase
  have hmem : task ∈ w.phase.inHand ++ w.queue := by
    rw [hphase]
    exact List.mem_cons_self
  obtain ⟨k, rfl⟩ := h.tasks task hmem
  exact ⟨_, rfl⟩

lemma Sampleless.of_same (h : w.Sampleless) (hphase : w'.phase = w.phase)
    (hqueue : w'.queue = w.queue) (hstate : w'.state = w.state) : w'.Sampleless := by
  refine ⟨?_, ?_, ?_⟩
  · rw [hphase, hqueue]
    exact h.tasks
  · rw [hstate]
    exact h.aggregate
  · rw [hstate]
    exact h.replies

lemma Sampleless.of_push (h : w.Sampleless) {k : Nat} (hphase : w'.phase = w.phase)
    (hqueue : w'.queue = w.queue ++ [.summary k]) (hstate : w'.state = w.state) :
    w'.Sampleless := by
  refine ⟨?_, ?_, ?_⟩
  · intro task htask
    rw [hphase, hqueue, ← List.append_assoc] at htask
    rcases List.mem_append.mp htask with htask | htask
    · exact h.tasks task htask
    · exact ⟨k, List.mem_singleton.mp htask⟩
  · rw [hstate]
    exact h.aggregate
  · rw [hstate]
    exact h.replies

lemma Sampleless.proceeds (h : w.Sampleless) (hproceeds : w.Proceeds now w') : w'.Sampleless := by
  have htasks := h.tasks
  cases hproceeds with
  | begins nextTick hphase hnext =>
    rw [hphase] at htasks
    exact ⟨htasks, h.aggregate, h.replies⟩
  | takes task rest hphase hqueue =>
    rw [hphase, hqueue] at htasks
    rw [release_eq]
    exact ⟨htasks, h.aggregate, h.replies⟩
  | finishes task ends state hphase hrun =>
    rw [hphase] at htasks
    obtain ⟨k, rfl⟩ := htasks task List.mem_cons_self
    cases hrun
    refine ⟨fun task htask => htasks task (List.mem_cons_of_mem _ htask), h.aggregate, ?_⟩
    intro reply hreply
    rcases List.mem_append.mp hreply with hreply | hreply
    · exact h.replies reply hreply
    · rw [List.mem_singleton.mp hreply]
      exact h.aggregate
  | ticks nextTick log hphase hdue hlater => exact ⟨htasks, h.aggregate, h.replies⟩

end Worker

namespace SummaryDesk

variable {d d' : SummaryDesk} {k : Nat}

/-- A desk to which no sample has come. -/
structure Sampleless (d : SummaryDesk) : Prop where
  attended : d.Attended
  worker : d.worker.Sampleless
  answered : ∀ answer ∈ d.answers, answer.2 = .ok .empty

lemma reply_eq_empty (h : d.worker.Attending d.now) (hworker : d.worker.Sampleless)
    {result : Except SummaryError TimingAggregate} (hreply : d.collector.reply k = .done result) :
    result = .ok .empty := by
  rcases Attended.reply_cases h k with ⟨a, hmem, heq⟩ | ⟨-, heq⟩
  · rw [hreply] at heq
    cases heq
    exact congrArg Except.ok (hworker.replies (k, a) hmem)
  · rw [hreply] at heq
    cases heq

lemma Sampleless.enter (h : d.Sampleless) {collector : Collector}
    {progress : Collector.SummaryProgress}
    (hattended : (({ d with collector }.leave k).enter k progress).Attended)
    (hworker : collector.worker.Sampleless)
    (hresult : ∀ result, progress = .done result → result = .ok .empty) :
    (({ d with collector }.leave k).enter k progress).Sampleless := by
  refine ⟨hattended, ?_, ?_⟩
  · unfold SummaryDesk.worker
    rw [collector_enter]
    exact hworker
  · intro answer hanswer
    rw [answers_enter] at hanswer
    rcases List.mem_append.mp hanswer with hanswer | hanswer
    · exact h.answered answer hanswer
    · cases progress with
      | pending request => cases hanswer
      | done result =>
        rw [List.mem_singleton.mp hanswer]
        exact hresult result rfl

lemma Sampleless.ask (h : d.Sampleless) : (d.next .ask).Sampleless := by
  have hattended := h.attended.ask
  unfold SummaryDesk.next Collector.ask at hattended ⊢
  rcases h.attended.attending.submit_cases d.asked with ⟨heq, -⟩ | ⟨heq, -⟩
  · rw [show d.collector.worker.submit d.asked (.summary d.asked) = _ from heq] at hattended ⊢
    exact ⟨hattended, h.worker.of_push rfl rfl rfl, h.answered⟩
  · rw [show d.collector.worker.submit d.asked (.summary d.asked) = _ from heq] at hattended ⊢
    exact ⟨hattended, h.worker.of_same rfl rfl rfl, h.answered⟩

lemma Sampleless.look (h : d.Sampleless) (k : Nat) : (d.next (.look k)).Sampleless := by
  have hattended := h.attended.look k
  rcases d.standing?_cases k with ⟨-, hstanding⟩ | ⟨-, -, hstanding⟩ | hstanding
  · rw [look_eq hstanding] at hattended ⊢
    rcases Attended.resume_cases h.attended.attending k with ⟨hmem, heq⟩ | ⟨-, heq⟩
    · rw [heq] at hattended ⊢
      have hworker : (d.worker.enqueue k).Sampleless := h.worker.of_push rfl rfl rfl
      refine h.enter hattended hworker fun result hreply => ?_
      exact reply_eq_empty (d := d.setWorker (d.worker.enqueue k))
        (h.attended.attending.enqueue hmem) hworker hreply
    · rw [heq] at hattended ⊢
      exact h.enter hattended h.worker nofun
  · rw [look_eq hstanding] at hattended ⊢
    exact h.enter hattended h.worker fun result hreply =>
      reply_eq_empty h.attended.attending h.worker hreply
  · rw [look_none hstanding]
    exact h

lemma Sampleless.giveUp (h : d.Sampleless) (k : Nat) : (d.next (.giveUp k)).Sampleless := by
  have hattended := h.attended.giveUp k
  rcases d.standing?_cases k with ⟨-, hstanding⟩ | ⟨-, -, hstanding⟩ | hstanding
  · rw [giveUp_waiting hstanding] at hattended ⊢
    have hsame := d.worker.abandon_same k
    exact ⟨hattended, h.worker.of_same hsame.phase hsame.queue hsame.state, h.answered⟩
  · rw [giveUp_queued hstanding] at hattended ⊢
    exact ⟨hattended, h.worker, h.answered⟩
  · rw [giveUp_none hstanding]
    exact h

lemma Sampleless.move (h : d.Sampleless) (move : WorkerMove) :
    (d.next (.move move)).Sampleless := by
  have hattended := h.attended.next h.worker.safe (.move move)
  cases hmove : d.worker.move? Ledger.runnable d.now move with
  | none =>
    rw [next_move_none hmove]
    exact h
  | some w =>
    have hproceeds := h.attended.attending.move h.worker.safe hmove
    rw [next_move hmove] at hattended ⊢
    exact ⟨hattended, h.worker.proceeds hproceeds, h.answered⟩

theorem Sampleless.next (h : d.Sampleless) (step : DeskStep) : (d.next step).Sampleless := by
  cases step with
  | ask => exact h.ask
  | look k => exact h.look k
  | giveUp k => exact h.giveUp k
  | move move => exact h.move move
  | wait time => exact ⟨h.attended.wait time, h.worker, h.answered⟩
  | report =>
    exact ⟨h.attended.report, ⟨h.worker.tasks, h.worker.aggregate, h.worker.replies⟩, h.answered⟩

theorem Sampleless.after (h : d.Sampleless) (steps : List DeskStep) :
    (d.after steps).Sampleless := by
  induction steps generalizing d with
  | nil => exact h
  | cons step rest ih => exact ih (h.next step)

theorem Sampleless.inevitable (h : d.Sampleless) (hasked : k < d.asked) (hopen : k ∉ d.givenUp) :
    d.Inevitable fun d => (k, .ok .empty) ∈ d.answers := by
  have hgoes (d d' : SummaryDesk) (h : d.Sampleless) (hprogress : d.Progress d') :
      d'.Sampleless := by
    obtain ⟨step, rfl⟩ := hprogress.exists_step
    exact h.next step
  have hcomes := Attended.inevitable (fun d h => ⟨Sampleless.attended h, h.worker.safe⟩) hgoes h
    hasked hopen
  refine hcomes.mono ?_
  rintro d ⟨h, a, hanswer⟩
  cases h.answered _ hanswer
  exact hanswer

end SummaryDesk

namespace Collector

/-- A collector that answers, as long as no sample is submitted and nobody shuts it down. -/
structure Alive (c : Collector) : Prop where
  /-- No request is refused, and all there is to tell is the empty summary. -/
  answers : ∀ steps, ∀ answer ∈ ((SummaryDesk.opened c).after steps).answers,
    answer.2 = .ok .empty
  /-- At any moment every request that was not given up is sure to be answered. -/
  inevitable : ∀ steps, ∀ k < ((SummaryDesk.opened c).after steps).asked,
    k ∉ ((SummaryDesk.opened c).after steps).givenUp →
      ((SummaryDesk.opened c).after steps).Inevitable fun d => (k, .ok .empty) ∈ d.answers

lemma opened_sampleless {capacity : Nat} {period : Option Nat} {worker : Worker Ledger TimingTask}
    (hstart : Worker.start capacity period Ledger.empty = .ok worker) (hperiod : period ≠ some 0) :
    (SummaryDesk.opened ⟨worker, 0, true⟩).Sampleless := by
  have hcapacity : 0 < capacity := by
    rcases Nat.eq_zero_or_pos capacity with rfl | hpos
    · cases hstart
    · exact hpos
  obtain rfl := WorkerHistory.start_eq hstart
  refine ⟨.opened ⟨hcapacity, hperiod, rfl, rfl, .inl rfl, Nat.zero_le _, ?_⟩ rfl rfl,
    ⟨nofun, rfl, nofun⟩, nofun⟩
  exact fun hne => absurd rfl hne

/-- With the interval zero the worker breaks down when it begins, and a request is refused. -/
lemma not_alive_of_zero {capacity : Nat} {worker : Worker Ledger TimingTask}
    (hstart : Worker.start capacity (some 0) Ledger.empty = .ok worker) :
    ¬ Alive ⟨worker, 0, true⟩ := by
  intro halive
  obtain rfl := WorkerHistory.start_eq hstart
  have hanswer := halive.answers [.move .setUp, .ask] (0, .error .shutDown) (by
    exact List.mem_cons_self)
  cases hanswer

/-- Exactly the collectors whose report interval is not zero answer. -/
theorem alive_iff {config : TimingConfig} {c : Collector} {record : LogRecord}
    (hstart : start config = .ok (c, record)) :
    c.Alive ↔ config.reportInterval.map (·.nanos) ≠ some 0 := by
  unfold start at hstart
  split at hstart
  · cases hstart
  · rename_i worker hworker
    cases hstart
    constructor
    · intro halive hzero
      rw [hzero] at hworker
      exact not_alive_of_zero hworker halive
    · intro hinterval
      have hopened := opened_sampleless hworker hinterval
      exact ⟨fun steps => (hopened.after steps).answered,
        fun steps k hasked hopen => (hopened.after steps).inevitable hasked hopen⟩

end Collector

end ProcessorHost
