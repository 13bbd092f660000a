import ProcessorHost.Proofs.Timing.Replies
import ProcessorHost.Proofs.Timing.SummaryProgress

/-!
# A collector in use

Samples are submitted to a collector and summaries are asked of it, while its worker moves, time
passes, and it is shut down at some moment. What is seen of it from outside is a list of events.
An event is warranted by those before it: a summary is the aggregate of the samples that were
accepted before its request was.
-/

namespace ProcessorHost

/-- What is seen of a collector from outside. -/
inductive TimingEvent
  | submitted (sample : TimingSample) (reason : Option DropReason)
  | called (request : Nat)
  /-- The queue accepts a request. -/
  | admitted (request : Nat)
  | returned (request : Nat) (result : Except SummaryError TimingAggregate)
  /-- The first call of the shutdown has returned. -/
  | stopped

namespace TimingEvent

/-- The task that the queue accepts. -/
def task? : TimingEvent → Option TimingTask
  | submitted sample none => some (.record sample)
  | admitted request => some (.summary request)
  | _ => none

def tasks (events : List TimingEvent) : List TimingTask := events.filterMap task?

/-- The samples that were not dropped, in the order of submission. -/
def taken (events : List TimingEvent) : List TimingSample :=
  events.filterMap fun
    | submitted sample none => some sample
    | _ => none

lemma tasks_append (events events' : List TimingEvent) :
    tasks (events ++ events') = tasks events ++ tasks events' := List.filterMap_append

lemma taken_append (events events' : List TimingEvent) :
    taken (events ++ events') = taken events ++ taken events' := List.filterMap_append

lemma samples_tasks (events : List TimingEvent) :
    TimingTask.samples (tasks events) = taken events := by
  unfold TimingTask.samples tasks taken
  rw [List.filterMap_filterMap]
  congr
  funext event
  match event with
  | submitted sample none => rfl
  | submitted sample (some reason) => rfl
  | called k | admitted k | returned k result | stopped => rfl

lemma task?_summary {event : TimingEvent} {k : Nat} (h : event.task? = some (.summary k)) :
    event = .admitted k := by
  match event, h with
  | admitted j, h =>
    cases h
    rfl

lemma exists_admitted {events : List TimingEvent} {before : List TimingTask} {k : Nat}
    (h : before ++ [.summary k] <+: tasks events) :
    ∃ first rest, events = first ++ .admitted k :: rest ∧ tasks first = before := by
  obtain ⟨later, hlater⟩ := h
  rw [List.append_assoc] at hlater
  obtain ⟨first, second, rfl, hfirst, hsecond⟩ := List.filterMap_eq_append_iff.mp hlater.symm
  obtain ⟨others, event, rest, rfl, hothers, hevent, -⟩ := List.filterMap_eq_cons_iff.mp hsecond
  obtain rfl := task?_summary hevent
  have hnone : tasks others = [] := List.filterMap_eq_nil_iff.mpr hothers
  refine ⟨first ++ others, rest, by rw [List.append_assoc], ?_⟩
  rw [tasks_append, hnone, List.append_nil]
  exact hfirst

/-- What must have been seen before an event. -/
def Warranted (past : List TimingEvent) : TimingEvent → Prop
  | called k => .called k ∉ past
  | admitted k => .called k ∈ past ∧ .admitted k ∉ past ∧ .stopped ∉ past
  | returned k (.ok a) => ∃ before after, past = before ++ .admitted k :: after ∧
    TimingAggregate.ofSamples (taken before) = .ok a
  | _ => True

def AllWarranted (events : List TimingEvent) : Prop :=
  ∀ past event later, events = past ++ event :: later → Warranted past event

lemma AllWarranted.nil : AllWarranted [] := by
  intro past event later heq
  simp at heq

lemma AllWarranted.append {events : List TimingEvent} {event : TimingEvent}
    (h : AllWarranted events) (hevent : Warranted events event) :
    AllWarranted (events ++ [event]) := by
  intro past other later heq
  rcases List.eq_nil_or_concat later with rfl | ⟨init, last, rfl⟩
  · obtain ⟨rfl, hlast⟩ := List.append_inj' heq rfl
    cases hlast
    exact hevent
  · rw [List.concat_eq_append, ← List.cons_append, ← List.append_assoc] at heq
    exact h past other init (List.append_inj' heq rfl).1

end TimingEvent

namespace Collector

/-- One collector comes from another by steps in which the queue accepts some tasks. -/
def Passes (c : Collector) (tasks : List TimingTask) (c' : Collector) : Prop :=
  ∃ steps, ∀ h : CollectorHistory Unit Unit, h.collector = c →
    (h.after steps).collector = c' ∧ (h.after steps).accepted = h.accepted ++ tasks

variable {c c' c'' : Collector} {tasks tasks' : List TimingTask}

lemma Passes.refl (c : Collector) : c.Passes [] c :=
  ⟨[], fun _ hcollector => ⟨hcollector, (List.append_nil _).symm⟩⟩

lemma Passes.of_step (step : CollectorStep)
    (hstep : ∀ h : CollectorHistory Unit Unit, h.collector = c →
      (h.next step).collector = c' ∧ (h.next step).accepted = h.accepted ++ tasks) :
    c.Passes tasks c' := ⟨[step], hstep⟩

lemma Passes.trans (h : c.Passes tasks c') (h' : c'.Passes tasks' c'') :
    c.Passes (tasks ++ tasks') c'' := by
  obtain ⟨steps, hsteps⟩ := h
  obtain ⟨steps', hsteps'⟩ := h'
  refine ⟨steps ++ steps', fun history hcollector => ?_⟩
  obtain ⟨hmiddle, haccepted⟩ := hsteps history hcollector
  obtain ⟨hlast, haccepted'⟩ := hsteps' _ hmiddle
  have happend : history.after (steps ++ steps') = (history.after steps).after steps' :=
    List.foldl_append ..
  rw [happend, ← List.append_assoc, ← haccepted]
  exact ⟨hlast, haccepted'⟩

lemma Passes.over (h : c.Passes tasks c') (hover : c.worker.isOver = true) :
    c'.worker.isOver = true := by
  obtain ⟨steps, hsteps⟩ := h
  obtain ⟨hcollector, -⟩ := hsteps (CollectorHistory.alone c) rfl
  rw [← hcollector]
  clear hsteps hcollector
  have hbegin : (CollectorHistory.alone c).collector.worker.isOver = true := hover
  generalize CollectorHistory.alone c = history at hbegin ⊢
  induction steps generalizing history with
  | nil => exact hbegin
  | cons step rest ih => exact ih _ (CollectorHistory.over_next hbegin step)

lemma passes_submit (c : Collector) (sample : TimingSample) :
    c.Passes (if (c.submit sample).2 = none then [.record sample] else []) (c.submit sample).1 := by
  refine .of_step (.submit sample) ?_
  rintro h rfl
  exact ⟨Host.timing_submit _ _, rfl⟩

lemma passes_ask (c : Collector) (k : Nat) :
    c.Passes ((c.worker.submit k (.summary k)).2.accepts (.summary k)).toList (c.ask k).1 := by
  refine .of_step (.ask k) ?_
  rintro h rfl
  exact ⟨rfl, rfl⟩

lemma passes_resume (c : Collector) (k : Nat) :
    c.Passes ((c.worker.resume k (.summary k)).2.accepts (.summary k)).toList
      (c.resume k .waiting).1 := by
  refine .of_step (.resume k) ?_
  rintro h rfl
  exact ⟨rfl, rfl⟩

lemma passes_abandon (c : Collector) (k : Nat) :
    c.Passes [] { c with worker := c.worker.abandon k } := by
  refine .of_step (.giveUp k) ?_
  rintro h rfl
  exact ⟨rfl, (List.append_nil _).symm⟩

lemma passes_move {move : WorkerMove} {now : Nat} {worker : Worker Ledger TimingTask}
    (hmove : c.worker.move? Ledger.runnable now move = some worker) :
    c.Passes [] { c with worker } := by
  refine .of_step (.move move now) ?_
  rintro h rfl
  unfold CollectorHistory.next
  dsimp only
  rw [hmove]
  exact ⟨rfl, (List.append_nil _).symm⟩

lemma passes_report (c : Collector) :
    c.Passes []
      { c with worker := { c.worker with state := { c.worker.state with log := [] } } } := by
  refine .of_step .report ?_
  rintro h rfl
  exact ⟨rfl, (List.append_nil _).symm⟩

lemma passes_shutdown (c : Collector) : c.Passes [] c.shutdown := by
  refine .of_step .shutdown ?_
  rintro h rfl
  exact ⟨rfl, (List.append_nil _).symm⟩

end Collector

namespace SummaryDesk

/-- The request that the queue accepts in a step. -/
def admitted? (d : SummaryDesk) : DeskStep → Option Nat
  | .ask =>
    if (d.worker.submit d.asked (.summary d.asked)).2 = .accepted then some d.asked else none
  | .look k =>
    if d.standing? k = some .waiting ∧ (d.worker.resume k (.summary k)).2 = .accepted then some k
    else none
  | _ => none

/-- What is seen of a step, in order. -/
def seen (d : SummaryDesk) (step : DeskStep) : List TimingEvent :=
  (if step = .ask then [.called d.asked] else []) ++
    (d.admitted? step).toList.map .admitted ++
    ((d.next step).answers.drop d.answers.length).map fun answer => .returned answer.1 answer.2

end SummaryDesk

/-- A collector in use, with what was seen of it. -/
structure TimingDesk where
  desk : SummaryDesk
  events : List TimingEvent

inductive TimingStep
  | submit (sample : TimingSample)
  /-- A request is made, looked after or given up, the worker moves, or time passes. -/
  | serve (step : DeskStep)
  | shutdown
  /-- A call of the shutdown returns that has waited for the worker. -/
  | shutdownReturns
deriving DecidableEq, Repr

namespace TimingDesk

def opened (collector : Collector) : TimingDesk := ⟨.opened collector, []⟩

def collector (d : TimingDesk) : Collector := d.desk.collector

/-- The desk after one step; what is not possible is no step. -/
def next (d : TimingDesk) : TimingStep → TimingDesk
  | .submit sample =>
    let (collector, reason) := d.collector.submit sample
    ⟨{ d.desk with collector }, d.events ++ [.submitted sample reason]⟩
  | .serve step => ⟨d.desk.next step, d.events ++ d.desk.seen step⟩
  | .shutdown => ⟨{ d.desk with collector := d.collector.shutdown }, d.events⟩
  | .shutdownReturns =>
    if d.collector.running = false ∧ d.collector.worker.isOver = true then
      ⟨d.desk, d.events ++ [.stopped]⟩
    else d

def after (d : TimingDesk) (steps : List TimingStep) : TimingDesk := steps.foldl next d

end TimingDesk

end ProcessorHost
