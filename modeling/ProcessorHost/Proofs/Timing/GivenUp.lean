import ProcessorHost.Proofs.Worker.Order
import ProcessorHost.Timing.Collector

/-!
# Collectors that are given up

When nobody holds a new collector any more, all that is left to its worker is to close the queue,
to call the hook and to end. It comes to this in whatever order it makes its moves and however many
ticks are made in between; left to itself it does it at once.
-/

namespace ProcessorHost

lemma Collector.eq_of_start {config : TimingConfig} {c : Collector} {record : LogRecord}
    (hstart : start config = .ok (c, record)) :
    c = ⟨⟨config.queueCapacity, config.reportInterval.map (·.nanos), .empty, .created, [], [], [],
      false, false, 0⟩, 0, true⟩ := by
  unfold start at hstart
  split at hstart
  · cases hstart
  · rename_i worker hworker
    cases hstart
    rw [WorkerHistory.start_eq hworker]

namespace WorkerHistory

variable {h h' : WorkerHistory Ledger TimingTask}

/-- A worker without work that was told to stop: it has ticked at most, until it ends with the
hook. -/
inductive Leaves (h : WorkerHistory Ledger TimingTask) : Prop
  | going (hphase : h.worker.phase = .created ∨ h.worker.phase = .waiting ∨
      h.worker.phase = .draining ∧ h.worker.closed = true)
      (hdeeds : ∀ deed ∈ h.deeds, deed = .ticked)
  | gone (ticks : List (Deed TimingTask)) (hphase : h.worker.phase = .ended)
      (hclosed : h.worker.closed = true) (hdeeds : h.deeds = ticks ++ [.shutDown])
      (hticks : ∀ deed ∈ ticks, deed = .ticked)

/-- Nothing is left to the worker but to stop. -/
structure IsLeaving (h : WorkerHistory Ledger TimingTask) : Prop where
  asked : h.worker.stopAsked = true
  period : h.worker.period ≠ some 0
  queue : h.worker.queue = []
  granted : h.worker.granted = []
  leaves : h.Leaves

lemma IsLeaving.of_start {config : TimingConfig} {c : Collector} {record : LogRecord}
    (hstart : Collector.start config = .ok (c, record))
    (hinterval : config.reportInterval.map (·.nanos) ≠ some 0) :
    (of c.abandon.worker).IsLeaving := by
  obtain rfl := Collector.eq_of_start hstart
  exact ⟨rfl, hinterval, rfl, rfl, .going (.inl rfl) nofun⟩

/-- Before it ends, a worker that is leaving is in one of three phases. -/
lemma Leaves.going_of_phase (hl : h.Leaves) (hne : h.worker.phase ≠ .ended) :
    (h.worker.phase = .created ∨ h.worker.phase = .waiting ∨
      h.worker.phase = .draining ∧ h.worker.closed = true) ∧
      ∀ deed ∈ h.deeds, deed = .ticked := by
  cases hl with
  | going hphase hdeeds => exact ⟨hphase, hdeeds⟩
  | gone ticks hphase => exact absurd hphase hne

lemma IsLeaving.moves (hl : h.IsLeaving) {deed : Option (Deed TimingTask)}
    (hmove : h.worker.Moves Ledger.runnable deed h'.worker)
    (hdeeds : h'.deeds = h.deeds ++ deed.toList) : h'.IsLeaving := by
  obtain ⟨w', accepted', deeds'⟩ := h'
  obtain rfl : deeds' = _ := hdeeds
  have hgoing (hne : h.worker.phase ≠ .ended) := hl.leaves.going_of_phase hne
  -- Nothing is queued or held, so that a task can neither be taken nor be at work.
  cases hmove with
  | breaksDown hphase hperiod => exact absurd hperiod hl.period
  | begins nextTick hphase hperiod =>
    obtain ⟨-, hticks⟩ := hgoing (by simp [hphase])
    refine ⟨hl.asked, hl.period, hl.queue, hl.granted, .going (.inr (.inl rfl)) ?_⟩
    simpa using hticks
  | takes task rest ends waiting granted hphase hqueue =>
    cases hl.queue.symm.trans hqueue
  | takesLate task rest ends hphase hqueue =>
    cases hl.queue.symm.trans hqueue
  | runs task ends stopping state hphase hrun =>
    obtain ⟨hcases, -⟩ := hgoing (by simp [hphase])
    simp [hphase] at hcases
  | panics task ends stopping state hphase hrun =>
    obtain ⟨hcases, -⟩ := hgoing (by simp [hphase])
    simp [hphase] at hcases
  | ticks nextTick state hphase htick =>
    obtain ⟨-, hticks⟩ := hgoing (by simp [hphase])
    refine ⟨hl.asked, hl.period, hl.queue, hl.granted, .going (.inr (.inl hphase)) ?_⟩
    intro deed hdeed
    rcases List.mem_append.mp hdeed with hdeed | hdeed
    · exact hticks deed hdeed
    · exact List.mem_singleton.mp hdeed
  | tickPanics state hphase htick => cases htick
  | stops hphase hasked =>
    obtain ⟨-, hticks⟩ := hgoing (by simp [hphase])
    refine ⟨hl.asked, hl.period, hl.queue, hl.granted, .going (.inr (.inr ⟨rfl, rfl⟩)) ?_⟩
    simpa using hticks
  | windsUp state hphase hqueue hhook =>
    obtain ⟨hcases, hticks⟩ := hgoing (by simp [hphase])
    have hclosed : h.worker.closed = true := by simpa [hphase] using hcases
    exact ⟨hl.asked, hl.period, hl.queue, hl.granted, .gone _ rfl hclosed rfl hticks⟩
  | windUpPanics state hphase hqueue hhook => cases hhook

lemma IsLeaving.next (hl : h.IsLeaving) (move : WorkerMove) (now : Nat) :
    (h.next Ledger.runnable (.move move now)).IsLeaving := by
  unfold WorkerHistory.next
  dsimp only
  split
  · rename_i worker hmove
    exact hl.moves (Worker.moves_of_move? hmove) rfl
  · exact hl

/-- By induction on the moves. -/
lemma IsLeaving.after (hl : h.IsLeaving) (moves : List (WorkerMove × Nat)) :
    (h.after Ledger.runnable (moves.map fun m => .move m.1 m.2)).IsLeaving := by
  induction moves generalizing h with
  | nil => exact hl
  | cons m rest ih => exact ih (hl.next m.1 m.2)

/-- Besides ticking, a worker that is leaving can always make a move that brings it closer to its
end. -/
lemma IsLeaving.goes_on (hl : h.IsLeaving) (hgoing : h.worker.phase ≠ .ended) (now : Nat) :
    ∃ move, move ≠ .tick ∧ (h.worker.move? Ledger.runnable now move).isSome := by
  obtain ⟨hphase | hphase | ⟨hphase, -⟩, -⟩ := hl.leaves.going_of_phase hgoing
  · refine ⟨.setUp, by decide, ?_⟩
    simp only [Worker.move?, hphase]
    split <;> rfl
  · refine ⟨.stop, by decide, ?_⟩
    simp only [Worker.move?, hphase, hl.asked, if_true]
    rfl
  · refine ⟨.windUp, by decide, ?_⟩
    simp only [Worker.move?, hphase, hl.queue, hl.granted, Ledger.runnable]
    rfl

end WorkerHistory

namespace Worker

variable {w : Worker Ledger TimingTask} {now : Nat}

lemma next?_created (w : Worker Ledger TimingTask) (now : Nat) (hphase : w.phase = .created)
    (hperiod : w.period ≠ some 0) : ∃ nextTick, (w.period.isSome → now < nextTick) ∧
      w.next? Ledger.runnable now = some { w with phase := .waiting, nextTick } := by
  unfold next? preference
  rw [List.findSome?_cons]
  simp only [move?, hphase]
  match hp : w.period with
  | none => exact ⟨w.nextTick, nofun, rfl⟩
  | some 0 => exact absurd hp hperiod
  | some (p + 1) => exact ⟨now + (p + 1), fun _ => by omega, rfl⟩

lemma next?_stop (hphase : w.phase = .waiting) (hqueue : w.queue = []) (hasked : w.stopAsked = true)
    (htick : w.period.isSome → now < w.nextTick) :
    w.next? Ledger.runnable now = some { w with phase := .draining, closed := true } := by
  have htick' : w.move? Ledger.runnable now .tick = none := by
    simp only [move?, hphase]
    split
    · rename_i p _ hp
      rw [if_neg (Nat.not_le.mpr (htick (by simp [hp])))]
    · rfl
  unfold next? preference
  simp only [List.findSome?_cons, htick']
  simp only [move?, hphase, hqueue, hasked, if_true]

lemma next?_windUp (hphase : w.phase = .draining) (hqueue : w.queue = [])
    (hgranted : w.granted = []) : w.next? Ledger.runnable now = some { w with
      phase := .ended
      state := { w.state with log := w.state.log ++ [w.state.aggregate.farewell] } } := by
  unfold next? preference
  simp only [List.findSome?_cons, move?, hphase, hqueue, hgranted, Ledger.runnable]

lemma next?_ended (hphase : w.phase = .ended) : w.next? Ledger.runnable now = none := by
  unfold next? preference
  simp only [List.findSome?_cons, List.findSome?_nil, move?, hphase]

lemma runMoves_next {w' : Worker Ledger TimingTask} (fuel : Nat)
    (hnext : w.next? Ledger.runnable now = some w') :
    w.runMoves Ledger.runnable now (fuel + 1) = w'.runMoves Ledger.runnable now fuel := by
  rw [runMoves, hnext]

end Worker

namespace Collector

/-- The collector whose worker has ended without any work. -/
structure IsGone (c : Collector) : Prop where
  phase : c.worker.phase = .ended
  closed : c.worker.closed = true
  queue : c.worker.queue = []

section

variable {config : TimingConfig} {c : Collector} {record : LogRecord}

lemma next?_abandon (hstart : start config = .ok (c, record))
    (hinterval : config.reportInterval.map (·.nanos) ≠ some 0) (now : Nat) :
    ∃ nextTick, (c.abandon.worker.period.isSome → now < nextTick) ∧
      c.abandon.worker.next? Ledger.runnable now =
        some { c.abandon.worker with phase := .waiting, nextTick } := by
  obtain rfl := eq_of_start hstart
  exact Worker.next?_created _ now rfl hinterval

/-- A collector that is given up when it is new is gone as soon as its worker runs, with a single
call of the hook. -/
lemma poll_abandon (hstart : start config = .ok (c, record))
    (hinterval : config.reportInterval.map (·.nanos) ≠ some 0) (now : Nat) :
    ∃ gone, c.abandon.poll now = (gone, [TimingAggregate.empty.farewell]) ∧ gone.IsGone := by
  obtain ⟨nextTick, hlater, hcreated⟩ := next?_abandon hstart hinterval now
  obtain rfl := eq_of_start hstart
  unfold abandon Worker.askStop at hcreated
  unfold poll Worker.poll Worker.moveBound abandon Worker.askStop
  dsimp only at hcreated ⊢
  rw [Worker.runMoves_next _ hcreated,
    Worker.runMoves_next _ (Worker.next?_stop rfl rfl rfl hlater),
    Worker.runMoves_next _ (Worker.next?_windUp rfl rfl rfl),
    Worker.runMoves, Worker.next?_ended rfl]
  exact ⟨_, rfl, rfl, rfl, rfl⟩

end

end Collector

end ProcessorHost
