import Mathlib.Data.List.Induction
import ProcessorHost.Proofs.Worker.Order

/-!
# Ticks of a worker

The first tick of a worker is due one period after the worker has first run, and each tick puts the
next one off by another period, however late it was made. So a worker that waits, with nothing left
to do, has made as many ticks as whole periods have passed since it first ran. A worker that runs by
itself gets there: only finitely many moves are possible at one moment.
-/

namespace ProcessorHost

variable {σ τ : Type}

/-- Whether a call was a tick, also one that panicked. -/
def Deed.isTick : Deed τ → Bool
  | ticked => true
  | tickPanicked => true
  | _ => false

namespace WorkerStep

/-- When a step of the worker itself is taken. What submitters do has no time of its own. -/
def time? : WorkerStep τ → Option Nat
  | move _ now => some now
  | _ => none

def setUpTime? : WorkerStep τ → Option Nat
  | move .setUp now => some now
  | _ => none

end WorkerStep

namespace Worker

/-- The worker waits and has nothing to do: no task is queued, nobody has told it to stop, and every
tick that was due has been made. -/
structure AtRest (r : Runnable σ τ) (now : Nat) (w : Worker σ τ) : Prop where
  waiting : w.phase = .waiting
  idle : w.queue = []
  unasked : w.stopAsked = false
  fired : w.move? r now .tick = none

variable {r : Runnable σ τ} {now : Nat} {w w' : Worker σ τ}

lemma AtRest.lt_nextTick {p : Nat} (h : w.AtRest r now) (hperiod : w.period = some p) :
    now < w.nextTick := by
  by_contra hdue
  have hfired := h.fired
  unfold move? at hfired
  rw [h.waiting, hperiod] at hfired
  dsimp only at hfired
  rw [if_pos (Nat.le_of_not_lt hdue)] at hfired
  split at hfired
  · cases hfired
  · cases hfired

lemma tick_of_none (r : Runnable σ τ) (hperiod : w.period = none) (now : Nat) :
    w.move? r now .tick = none := by
  unfold move?
  rw [hperiod]
  cases w.phase with
  | _ => rfl

lemma begun_of_move? {move : WorkerMove} (h : w.move? r now move = some w')
    (hsetUp : move ≠ .setUp) : w.phase ≠ .created := by
  intro hphase
  unfold move? at h
  rw [hphase] at h
  cases move with
  | setUp => exact hsetUp rfl
  | _ => cases h

lemma deed?_isTick {move : WorkerMove} (htick : move ≠ .tick) :
    (w.deed? r move).toList.countP Deed.isTick = 0 := by
  unfold deed?
  split
  · split
    · split
      · rfl
      · rfl
    · rfl
  · exact absurd rfl htick
  · rfl
  · rfl

lemma Moves.period {deed : Option (Deed τ)} (h : w.Moves r deed w') : w'.period = w.period := by
  cases h with
  | _ => rfl

/-- A move other than the first one and the ticks does not put off the next tick. -/
lemma nextTick_of_move? {move : WorkerMove} (h : w.move? r now move = some w')
    (hsetUp : move ≠ .setUp) (htick : move ≠ .tick) :
    w'.nextTick = w.nextTick ∧ w'.phase ≠ .created := by
  have hbegun := begun_of_move? h hsetUp
  have hdeed := deed?_isTick (r := r) (w := w) htick
  have hmoves := moves_of_move? h
  revert hmoves hdeed
  generalize w.deed? r move = deed
  intro hdeed hmoves
  cases hmoves with
  | breaksDown hphase hperiod => exact absurd hphase hbegun
  | begins nextTick hphase hperiod => exact absurd hphase hbegun
  | ticks nextTick state hphase htick => cases hdeed
  | runs task ends stopping state hphase hrun =>
    cases stopping with
    | true => exact ⟨rfl, nofun⟩
    | false => exact ⟨rfl, nofun⟩
  | _ => exact ⟨rfl, nofun⟩

end Worker

namespace WorkerHistory

/-- How often a worker has been told to tick. -/
def ticks (h : WorkerHistory σ τ) : Nat := h.deeds.countP Deed.isTick

/-- The clock does not go back during some steps, and is no further than a moment after them. -/
def InTime (steps : List (WorkerStep τ)) (now : Nat) : Prop :=
  (steps.filterMap WorkerStep.time? ++ [now]).Pairwise (· ≤ ·)

instance (steps : List (WorkerStep τ)) (now : Nat) : Decidable (InTime steps now) :=
  inferInstanceAs (Decidable (List.Pairwise _ _))

/-- When a worker that has not begun first runs. -/
def firstRun? (steps : List (WorkerStep τ)) : Option Nat := steps.findSome? WorkerStep.setUpTime?

variable {r : Runnable σ τ} {h h' : WorkerHistory σ τ} {steps : List (WorkerStep τ)}
  {step : WorkerStep τ} {now p : Nat}

lemma InTime.of_append (h : InTime (steps ++ [step]) now) :
    InTime steps now ∧ ∀ time, step.time? = some time → InTime steps time ∧ time ≤ now := by
  unfold InTime at h
  rw [List.filterMap_append, List.append_assoc] at h
  refine ⟨h.sublist ((List.Sublist.refl _).append (List.sublist_append_right _ _)), ?_⟩
  intro time htime
  have hone : [step].filterMap WorkerStep.time? = [time] := by simp [htime]
  rw [hone, ← List.append_assoc] at h
  obtain ⟨hsteps, -, hnow⟩ := List.pairwise_append.mp h
  exact ⟨hsteps, hnow time (by simp) now (List.mem_singleton_self now)⟩

lemma firstRun?_append (steps : List (WorkerStep τ)) (step : WorkerStep τ) :
    firstRun? (steps ++ [step]) = (firstRun? steps).or step.setUpTime? := by
  unfold firstRun?
  rw [List.findSome?_append]
  simp

lemma ticks_move_of_ne {move : WorkerMove} (htick : move ≠ .tick) (now : Nat) :
    (h.next r (.move move now)).ticks = h.ticks := by
  unfold next
  dsimp only
  split
  · change (h.deeds ++ _).countP Deed.isTick = h.deeds.countP Deed.isTick
    rw [List.countP_append, Worker.deed?_isTick htick, Nat.add_zero]
  · rfl

/-- What a step does to the time of the next tick. -/
inductive TickEffect (p : Nat) (h h' : WorkerHistory σ τ) : WorkerStep τ → Prop
  | begins (now : Nat) (hphase : h.worker.phase = .created) (hbegun : h'.worker.phase ≠ .created)
      (hnext : h'.worker.nextTick = now + p) (hticks : h'.ticks = h.ticks) :
      TickEffect p h h' (.move .setUp now)
  | ticks (now : Nat) (hphase : h.worker.phase = .waiting) (hbegun : h'.worker.phase ≠ .created)
      (hdue : h.worker.nextTick ≤ now)
      (hnext : h'.worker.isOver = false → h'.worker.nextTick = h.worker.nextTick + p)
      (hticks : h'.ticks = h.ticks + 1) : TickEffect p h h' (.move .tick now)
  | keeps (step : WorkerStep τ) (hsetUp : h.worker.phase = .created → step.setUpTime? = none)
      (hphase : h'.worker.phase = .created ↔ h.worker.phase = .created)
      (hover : h'.worker.isOver = false → h.worker.isOver = false)
      (hnext : h'.worker.nextTick = h.worker.nextTick) (hticks : h'.ticks = h.ticks) :
      TickEffect p h h' step

lemma TickEffect.refl (hsetUp : h.worker.phase = .created → step.setUpTime? = none) :
    TickEffect p h h step :=
  .keeps step hsetUp Iff.rfl id rfl rfl

/-- A step of a submitter, or the order to stop, has nothing to do with the ticks. -/
lemma TickEffect.of_same (hsetUp : step.setUpTime? = none)
    (hphase : h'.worker.phase = h.worker.phase) (hnext : h'.worker.nextTick = h.worker.nextTick)
    (hdeeds : h'.deeds = h.deeds) : TickEffect p h h' step := by
  refine .keeps step (fun _ => hsetUp) (by rw [hphase]) (fun hover => ?_) hnext ?_
  · unfold Worker.isOver at hover ⊢
    rwa [← hphase]
  · unfold WorkerHistory.ticks
    rw [hdeeds]

lemma setUp_tickEffect (r : Runnable σ τ) (hperiod : h.worker.period = some p) (hp : p ≠ 0)
    (now : Nat) : TickEffect p h (h.next r (.move .setUp now)) (.move .setUp now) := by
  obtain ⟨⟨capacity, period, state, phase, queue, waiting, granted, closed, stopAsked, nextTick⟩,
    accepted, deeds⟩ := h
  obtain ⟨q, rfl⟩ := Nat.exists_eq_succ_of_ne_zero hp
  cases phase with
  | created =>
    obtain rfl : period = some (q + 1) := hperiod
    refine .begins now rfl nofun rfl ?_
    change List.countP _ (deeds ++ []) = _
    rw [List.append_nil]
    rfl
  | _ => exact TickEffect.refl nofun

lemma tick_tickEffect (r : Runnable σ τ) (hperiod : h.worker.period = some p) (now : Nat) :
    TickEffect p h (h.next r (.move .tick now)) (.move .tick now) := by
  have hcount (deed : Deed τ) (hdeed : deed.isTick = true) (deeds : List (Deed τ)) :
      (deeds ++ [deed]).countP Deed.isTick = deeds.countP Deed.isTick + 1 := by
    rw [List.countP_append, List.countP_singleton, if_pos hdeed]
  obtain ⟨⟨capacity, period, state, phase, queue, waiting, granted, closed, stopAsked, nextTick⟩,
    accepted, deeds⟩ := h
  obtain rfl : period = some p := hperiod
  cases phase with
  | waiting =>
    by_cases hdue : nextTick ≤ now
    · unfold next Worker.move? Worker.deed?
      dsimp only
      rw [if_pos hdue]
      cases r.tick state with
      | ok after => exact .ticks now rfl nofun hdue (fun _ => rfl) (hcount _ rfl deeds)
      | error after => exact .ticks now rfl nofun hdue nofun (hcount _ rfl deeds)
    · unfold next Worker.move?
      dsimp only
      rw [if_neg hdue]
      exact TickEffect.refl fun _ => rfl
  | _ => exact TickEffect.refl fun _ => rfl

lemma move_tickEffect (r : Runnable σ τ) (hperiod : h.worker.period = some p) (hp : p ≠ 0)
    (move : WorkerMove) (now : Nat) :
    TickEffect p h (h.next r (.move move now)) (.move move now) := by
  by_cases hsetUp : move = .setUp
  · subst hsetUp
    exact setUp_tickEffect r hperiod hp now
  by_cases htick : move = .tick
  · subst htick
    exact tick_tickEffect r hperiod now
  have hlater : (WorkerStep.move move now : WorkerStep τ).setUpTime? = none := by
    cases move with
    | setUp => exact absurd rfl hsetUp
    | _ => rfl
  cases hmove : h.worker.move? r now move with
  | none =>
    unfold next
    dsimp only
    rw [hmove]
    exact TickEffect.refl fun _ => hlater
  | some w =>
    have hbegun := Worker.begun_of_move? hmove hsetUp
    obtain ⟨hnext, hbegun'⟩ := Worker.nextTick_of_move? hmove hsetUp htick
    have hgoing := (Worker.moves_of_move? hmove).not_over
    have hticks := ticks_move_of_ne (h := h) (r := r) htick now
    unfold next at hticks ⊢
    dsimp only at hticks ⊢
    rw [hmove] at hticks ⊢
    exact .keeps _ (fun _ => hlater) ⟨fun h => absurd h hbegun', fun h => absurd h hbegun⟩
      (fun _ => hgoing) hnext hticks

/-- A worker begins, or it ticks, or its next tick stays where it is. -/
theorem next_tickEffect (r : Runnable σ τ) (hperiod : h.worker.period = some p) (hp : p ≠ 0)
    (step : WorkerStep τ) : TickEffect p h (h.next r step) step := by
  cases step with
  | move move now => exact move_tickEffect r hperiod hp move now
  | trySubmit task =>
    unfold next Worker.trySubmit
    dsimp only
    split_ifs
    · exact TickEffect.refl fun _ => rfl
    · exact TickEffect.refl fun _ => rfl
    · exact .of_same rfl rfl rfl rfl
  | submit ticket task =>
    unfold next Worker.submit
    dsimp only
    split
    · exact .of_same rfl rfl rfl rfl
    · split
      · exact .of_same rfl rfl rfl rfl
      · exact .of_same rfl rfl rfl rfl
  | resume ticket task =>
    unfold next Worker.resume
    dsimp only
    split
    · exact .of_same rfl rfl rfl rfl
    · split
      · exact .of_same rfl rfl rfl rfl
      · exact .of_same rfl rfl rfl rfl
  | abandon ticket =>
    unfold next Worker.abandon
    dsimp only
    split_ifs
    · rw [Worker.release_eq]
      exact .of_same rfl rfl rfl rfl
    · exact .of_same rfl rfl rfl rfl
  | askStop => exact .of_same rfl rfl rfl rfl

/-- How the ticks that were made and the time of the next one follow from the first run. -/
structure Schedule (p : Nat) (steps : List (WorkerStep τ)) (now : Nat) (h : WorkerHistory σ τ) :
    Prop where
  ahead : firstRun? steps = none → h.worker.phase = .created ∧ h.ticks = 0
  begun : ∀ began, firstRun? steps = some began → h.worker.phase ≠ .created ∧ began ≤ now
  next : ∀ began, firstRun? steps = some began → h.worker.isOver = false →
    h.worker.nextTick = began + (h.ticks + 1) * p ∧ began + h.ticks * p ≤ now

lemma Schedule.later {later : Nat} (s : Schedule p steps now h) (hle : now ≤ later) :
    Schedule p steps later h where
  ahead := s.ahead
  begun began hbegan := by
    obtain ⟨hphase, hnow⟩ := s.begun began hbegan
    exact ⟨hphase, Nat.le_trans hnow hle⟩
  next began hbegan hgoing := by
    obtain ⟨hnext, hnow⟩ := s.next began hbegan hgoing
    exact ⟨hnext, Nat.le_trans hnow hle⟩

lemma Schedule.kept (s : Schedule p steps now h) (heffect : TickEffect p h h' step)
    (htime : ∀ time, step.time? = some time → time = now) :
    Schedule p (steps ++ [step]) now h' := by
  cases heffect with
  | begins time hphase hbegun hnext hticks =>
    obtain rfl := htime time rfl
    have hahead : firstRun? steps = none := by
      by_contra hne
      obtain ⟨began, hbegan⟩ := Option.ne_none_iff_exists'.mp hne
      exact (s.begun began hbegan).1 hphase
    obtain ⟨-, hzero⟩ := s.ahead hahead
    have hrun : firstRun? (steps ++ [.move .setUp time]) = some time := by
      rw [firstRun?_append, hahead]
      rfl
    refine ⟨fun hnone => ?_, fun began hbegan => ?_, fun began hbegan _ => ?_⟩
    · rw [hrun] at hnone
      cases hnone
    · obtain rfl := Option.some.inj (hrun.symm.trans hbegan)
      exact ⟨hbegun, Nat.le_refl _⟩
    · obtain rfl := Option.some.inj (hrun.symm.trans hbegan)
      rw [hticks, hzero, hnext]
      simp
  | ticks time hphase hbegun hdue hnext hticks =>
    obtain rfl := htime time rfl
    have hrun : firstRun? (steps ++ [.move .tick time]) = firstRun? steps := by
      rw [firstRun?_append]
      exact Option.or_none
    have hgoing : h.worker.isOver = false := by rw [Worker.isOver, hphase]
    refine ⟨fun hnone => ?_, fun began hbegan => ?_, fun began hbegan hgoing' => ?_⟩
    · have hahead := (s.ahead (hrun ▸ hnone)).1
      rw [hphase] at hahead
      cases hahead
    · exact ⟨hbegun, (s.begun began (hrun ▸ hbegan)).2⟩
    · obtain ⟨hnext', -⟩ := s.next began (hrun ▸ hbegan) hgoing
      rw [hnext hgoing', hticks, hnext', Nat.add_mul (h.ticks + 1) 1 p, Nat.one_mul, Nat.add_assoc]
      exact ⟨rfl, hnext' ▸ hdue⟩
  | keeps _ hsetUp hphase hover hnext hticks =>
    have hrun : firstRun? (steps ++ [step]) = firstRun? steps := by
      rw [firstRun?_append]
      cases hsteps : firstRun? steps with
      | some began => rfl
      | none => exact hsetUp (s.ahead hsteps).1
    refine ⟨fun hnone => ?_, fun began hbegan => ?_, fun began hbegan hgoing => ?_⟩
    · obtain ⟨hcreated, hzero⟩ := s.ahead (hrun ▸ hnone)
      exact ⟨hphase.mpr hcreated, hticks.trans hzero⟩
    · obtain ⟨hbegun, hnow⟩ := s.begun began (hrun ▸ hbegan)
      exact ⟨fun hcreated => hbegun (hphase.mp hcreated), hnow⟩
    · rw [hnext, hticks]
      exact s.next began (hrun ▸ hbegan) (hover hgoing)

lemma period_next (r : Runnable σ τ) (h : WorkerHistory σ τ) (step : WorkerStep τ) :
    (h.next r step).worker.period = h.worker.period := by
  have heffect := next_effect r h step
  revert heffect
  generalize h.next r step = h'
  intro heffect
  obtain ⟨w', accepted', deeds'⟩ := h'
  cases heffect with
  | moves hmove accepted deeds => exact hmove.period
  | admits hadmits accepted deeds =>
    cases hadmits with
    | same hsame => exact hsame.period
    | accepts task granted hopen hslots => rfl

lemma period_after (r : Runnable σ τ) (h : WorkerHistory σ τ) (steps : List (WorkerStep τ)) :
    (h.after r steps).worker.period = h.worker.period := by
  induction steps generalizing h with
  | nil => rfl
  | cons step rest ih => exact (ih _).trans (period_next r h step)

lemma after_append (r : Runnable σ τ) (h : WorkerHistory σ τ) (steps : List (WorkerStep τ))
    (step : WorkerStep τ) : h.after r (steps ++ [step]) = (h.after r steps).next r step :=
  List.foldl_append

/-- The schedule is kept by every run. -/
theorem Schedule.after (r : Runnable σ τ) (hphase : h.worker.phase = .created)
    (hticks : h.ticks = 0) (hperiod : h.worker.period = some p) (hp : p ≠ 0)
    (steps : List (WorkerStep τ)) (now : Nat) (htime : InTime steps now) :
    Schedule p steps now (h.after r steps) := by
  -- The schedule of all steps but the last one is taken at the time of the last one, if it has one.
  induction steps using List.reverseRecOn generalizing now with
  | nil => exact ⟨fun _ => ⟨hphase, hticks⟩, nofun, nofun⟩
  | append_singleton steps step ih =>
    obtain ⟨hsteps, hstep⟩ := htime.of_append
    have heffect := next_tickEffect r ((period_after r h steps).trans hperiod) hp step
    rw [after_append]
    cases htime? : step.time? with
    | none =>
      exact (ih now hsteps).kept heffect fun time h => by rw [htime?] at h; cases h
    | some time =>
      obtain ⟨hbefore, hle⟩ := hstep time htime?
      refine ((ih time hbefore).kept heffect fun time' h => ?_).later hle
      exact Option.some.inj (h.symm.trans htime?)

/-- A worker at rest has ticked once for each whole period since its first run. -/
lemma Schedule.ticks_eq (s : Schedule p steps now h) (hperiod : h.worker.period = some p)
    (hrest : h.worker.AtRest r now) : ∃ began, firstRun? steps = some began ∧ began ≤ now ∧
      h.ticks = (now - began) / p := by
  have hphase := hrest.waiting
  cases hrun : firstRun? steps with
  | none =>
    rw [(s.ahead hrun).1] at hphase
    cases hphase
  | some began =>
    obtain ⟨hnext, hdone⟩ := s.next began hrun (by rw [Worker.isOver, hphase])
    -- The last tick was due by now, and the next one is not.
    have hdue := hrest.lt_nextTick hperiod
    refine ⟨began, rfl, (s.begun began hrun).2, ?_⟩
    rw [hnext] at hdue
    exact (Nat.div_eq_of_lt_le (by omega) (by omega)).symm

/-- Without a period there are no ticks. -/
lemma ticks_next_of_none (r : Runnable σ τ) (hperiod : h.worker.period = none)
    (step : WorkerStep τ) : (h.next r step).ticks = h.ticks := by
  cases step with
  | move move now =>
    by_cases htick : move = .tick
    · subst htick
      unfold next
      dsimp only
      rw [Worker.tick_of_none r hperiod now]
    · exact ticks_move_of_ne htick now
  | trySubmit task =>
    unfold next
    dsimp only
    split
    · rfl
    · rfl
  | submit ticket task => rfl
  | resume ticket task => rfl
  | abandon ticket => rfl
  | askStop => rfl

lemma ticks_after_of_none (r : Runnable σ τ) (hperiod : h.worker.period = none)
    (steps : List (WorkerStep τ)) : (h.after r steps).ticks = h.ticks := by
  induction steps generalizing h with
  | nil => rfl
  | cons step rest ih =>
    have hperiod' := (period_next r h step).trans hperiod
    exact (ih hperiod').trans (ticks_next_of_none r hperiod step)

end WorkerHistory

/-- At least the moves that are possible in a phase and those after it, without tasks and ticks. -/
def WorkerPhase.movesLeft : WorkerPhase τ → Nat
  | .created => 4
  | .running _ _ false => 4
  | .waiting => 3
  | .running _ _ true => 2
  | .draining => 1
  | .ended => 0
  | .crashed => 0

namespace Worker

variable {r : Runnable σ τ} {now : Nat} {w w' : Worker σ τ}

/-- The number of ticks that are due and not yet made. -/
def ticksLeft (w : Worker σ τ) (now : Nat) : Nat :=
  match w.period with
  | none => 0
  | some p => (now + p - w.nextTick) / p

/-- At least the number of moves that are possible before time passes. -/
def movesLeft (w : Worker σ τ) (now : Nat) : Nat :=
  2 * w.queue.length + w.ticksLeft now + w.phase.movesLeft

lemma ticksLeft_congr (hperiod : w'.period = w.period) (hnext : w'.nextTick = w.nextTick) :
    w'.ticksLeft now = w.ticksLeft now := by
  unfold ticksLeft
  rw [hperiod, hnext]

lemma ticksLeft_tick {p : Nat} (hp : p ≠ 0) (hperiod : w.period = some p)
    (hperiod' : w'.period = some p) (hdue : w.nextTick ≤ now)
    (hnext : w'.nextTick = w.nextTick + p) : w'.ticksLeft now + 1 = w.ticksLeft now := by
  have hone : now + p - w.nextTick = (now + p - w'.nextTick) + p := by omega
  unfold ticksLeft
  rw [hperiod, hperiod']
  dsimp only
  rw [hone, Nat.add_div_right _ (Nat.pos_of_ne_zero hp)]

lemma ticksLeft_begun {p : Nat} (hperiod : w.period = some p) (hnext : w.nextTick = now + p) :
    w.ticksLeft now = 0 := by
  unfold ticksLeft
  rw [hperiod]
  dsimp only
  rw [hnext, Nat.sub_self, Nat.zero_div]

lemma movesLeft_crash (w : Worker σ τ) (state : σ) (now : Nat) :
    (w.crash state).movesLeft now = w.ticksLeft now :=
  Nat.zero_add _

lemma movesLeft_setUp (h : w.move? r now .setUp = some w') :
    w'.movesLeft now < w.movesLeft now := by
  obtain ⟨capacity, period, state, phase, queue, waiting, granted, closed, stopAsked, nextTick⟩ := w
  cases phase with
  | created =>
    unfold movesLeft WorkerPhase.movesLeft
    dsimp only
    match period, h with
    | none, rfl =>
      change 2 * queue.length + 0 + 3 < 2 * queue.length + 0 + 4
      omega
    | some 0, rfl =>
      change 0 + (now + 0 - nextTick) / 0 + 0 < 2 * queue.length + (now + 0 - nextTick) / 0 + 4
      omega
    | some (p + 1), rfl =>
      rw [ticksLeft_begun rfl rfl]
      dsimp only
      omega
  | _ => cases h

lemma movesLeft_tick (hperiod : w.period ≠ some 0) (h : w.move? r now .tick = some w') :
    w'.movesLeft now < w.movesLeft now := by
  obtain ⟨capacity, period, state, phase, queue, waiting, granted, closed, stopAsked, nextTick⟩ := w
  unfold move? at h
  dsimp only at h hperiod
  match phase, period, h with
  | .waiting, some p, h =>
    dsimp only at h
    split at h
    · rename_i hdue
      cases htick : r.tick state with
      | ok after =>
        rw [htick] at h
        obtain rfl := Option.some.inj h
        have hp : p ≠ 0 := fun heq => hperiod (congrArg some heq)
        have hleft : (⟨capacity, some p, after, .waiting, queue, waiting, granted, closed,
            stopAsked, nextTick + p⟩ : Worker σ τ).ticksLeft now + 1 =
            (⟨capacity, some p, state, .waiting, queue, waiting, granted, closed, stopAsked,
              nextTick⟩ : Worker σ τ).ticksLeft now := ticksLeft_tick hp rfl rfl hdue rfl
        unfold movesLeft
        rw [← hleft]
        dsimp only
        omega
      | error after =>
        rw [htick] at h
        obtain rfl := Option.some.inj h
        rw [movesLeft_crash]
        unfold movesLeft WorkerPhase.movesLeft
        dsimp only
        omega
    · cases h

/-- After each move fewer are left. -/
lemma movesLeft_lt {move : WorkerMove} (hperiod : w.period ≠ some 0)
    (h : w.move? r now move = some w') : w'.movesLeft now < w.movesLeft now := by
  by_cases hsetUp : move = .setUp
  · subst hsetUp
    exact movesLeft_setUp h
  by_cases htick : move = .tick
  · subst htick
    exact movesLeft_tick hperiod h
  -- The other moves leave the ticks as they are, and go on with the queue or to a later phase.
  obtain ⟨hnext, -⟩ := nextTick_of_move? h hsetUp htick
  have hbegun := begun_of_move? h hsetUp
  have hdeed := deed?_isTick (r := r) (w := w) htick
  have hmoves := moves_of_move? h
  have hleft (hperiod' : w'.period = w.period) : w'.ticksLeft now = w.ticksLeft now :=
    ticksLeft_congr hperiod' hnext
  revert hmoves hdeed
  generalize w.deed? r move = deed
  intro hdeed hmoves
  unfold movesLeft
  cases hmoves with
  | breaksDown hphase hperiod => exact absurd hphase hbegun
  | begins nextTick hphase hperiod => exact absurd hphase hbegun
  | ticks nextTick state hphase htick => cases hdeed
  | tickPanics state hphase htick => cases hdeed
  | takes task rest ends waiting granted hphase hqueue =>
    rw [hleft rfl, hphase, hqueue, List.length_cons]
    simp only [WorkerPhase.movesLeft]
    omega
  | takesLate task rest ends hphase hqueue =>
    rw [hleft rfl, hphase, hqueue, List.length_cons]
    simp only [WorkerPhase.movesLeft]
    omega
  | runs task ends stopping state hphase hrun =>
    rw [hleft rfl, hphase]
    cases stopping with
    | true => exact Nat.lt_succ_self _
    | false => exact Nat.lt_succ_self _
  | panics task ends stopping state hphase hrun =>
    rw [hleft rfl, hphase]
    cases stopping with
    | _ =>
      simp only [crash, WorkerPhase.movesLeft, List.length_nil]
      omega
  | stops hphase hasked =>
    rw [hleft rfl, hphase]
    simp only [WorkerPhase.movesLeft]
    omega
  | windsUp state hphase hqueue hhook =>
    rw [hleft rfl, hphase]
    simp only [WorkerPhase.movesLeft]
    omega
  | windUpPanics state hphase hqueue hhook =>
    rw [hleft rfl, hphase]
    simp only [crash, WorkerPhase.movesLeft, List.length_nil]
    omega

lemma exists_of_next? (h : w.next? r now = some w') : ∃ move, w.move? r now move = some w' := by
  obtain ⟨move, -, hmove⟩ := List.exists_of_findSome?_eq_some h
  exact ⟨move, hmove⟩

lemma move?_of_next?_none (h : w.next? r now = none) (move : WorkerMove) :
    w.move? r now move = none := by
  refine List.findSome?_eq_none_iff.mp h move ?_
  cases move with
  | _ => decide

lemma movesLeft_le_moveBound (w : Worker σ τ) (now : Nat) : w.movesLeft now ≤ w.moveBound now := by
  have hticks : w.ticksLeft now ≤ w.dueTicks now := by
    unfold ticksLeft dueTicks
    cases w.period with
    | none => exact Nat.le_refl _
    | some p => exact Nat.div_le_div_right (by omega)
  have hphase : w.phase.movesLeft ≤ 4 := by
    unfold WorkerPhase.movesLeft
    split
    all_goals decide
  unfold movesLeft moveBound
  omega

/-- With enough rounds a worker moves until it has to wait. -/
lemma next?_runMoves (r : Runnable σ τ) (now fuel : Nat) (w : Worker σ τ)
    (hperiod : w.period ≠ some 0) (hfuel : w.movesLeft now ≤ fuel) :
    (w.runMoves r now fuel).next? r now = none := by
  induction fuel generalizing w with
  | zero =>
    cases hnext : w.next? r now with
    | none => exact hnext
    | some w' =>
      obtain ⟨move, hmove⟩ := exists_of_next? hnext
      have hlt := movesLeft_lt hperiod hmove
      omega
  | succ fuel ih =>
    unfold runMoves
    cases hnext : w.next? r now with
    | none => exact hnext
    | some w' =>
      obtain ⟨move, hmove⟩ := exists_of_next? hnext
      have hlt := movesLeft_lt hperiod hmove
      exact ih w' ((moves_of_move? hmove).period ▸ hperiod) (by omega)

lemma next?_poll (r : Runnable σ τ) (now : Nat) (hperiod : w.period ≠ some 0) :
    (w.poll r now).next? r now = none :=
  next?_runMoves r now _ w hperiod (w.movesLeft_le_moveBound now)

/-- A worker that cannot move, waits and was not told to stop has nothing to do. -/
lemma atRest_of_next?_none (hnext : w.next? r now = none) (hphase : w.phase = .waiting)
    (hasked : w.stopAsked = false) : w.AtRest r now := by
  refine ⟨hphase, ?_, hasked, move?_of_next?_none hnext .tick⟩
  have htake := move?_of_next?_none hnext .take
  unfold move? at htake
  rw [hphase] at htake
  cases hqueue : w.queue with
  | nil => rfl
  | cons task rest =>
    rw [hqueue] at htake
    cases htake

end Worker

namespace WorkerHistory

variable {r : Runnable σ τ} {h : WorkerHistory σ τ} {now : Nat}

/-- A worker that runs by itself takes steps of its own. -/
lemma exists_moves_runMoves (r : Runnable σ τ) (h : WorkerHistory σ τ) (now fuel : Nat) :
    ∃ moves : List WorkerMove, (h.after r (moves.map (.move · now))).worker =
      h.worker.runMoves r now fuel := by
  induction fuel generalizing h with
  | zero => exact ⟨[], rfl⟩
  | succ fuel ih =>
    unfold Worker.runMoves
    cases hnext : h.worker.next? r now with
    | none => exact ⟨[], rfl⟩
    | some w =>
      obtain ⟨move, hmove⟩ := Worker.exists_of_next? hnext
      obtain ⟨moves, hmoves⟩ := ih (h.next r (.move move now))
      have hworker : (h.next r (.move move now)).worker = w := by
        unfold next
        dsimp only
        rw [hmove]
      rw [hworker] at hmoves
      exact ⟨move :: moves, hmoves⟩

/-- How the ticks of a worker go with time. -/
structure TicksInTime (r : Runnable σ τ) (period : Option Nat) (steps : List (WorkerStep τ))
    (now : Nat) (h : WorkerHistory σ τ) : Prop where
  /-- At rest there has been one tick for each whole period since the first run. -/
  counted : ∀ p, period = some p → h.worker.AtRest r now →
    ∃ began, firstRun? steps = some began ∧ began ≤ now ∧ h.ticks = (now - began) / p
  never : period = none → h.ticks = 0
  /-- A worker that goes on by itself comes to a stop, and unless it was told to stop it then waits
  only at rest. -/
  rests : ∃ moves : List WorkerMove,
    let w := (h.after r (moves.map (.move · now))).worker
    w = h.worker.poll r now ∧ w.next? r now = none ∧
      (w.phase = .waiting → w.stopAsked = false → w.AtRest r now)

/-- No tick is lost and none is made up, whatever is submitted and however long tasks take. -/
theorem ticks_in_time (r : Runnable σ τ) {capacity : Nat} {period : Option Nat} {s₀ : σ}
    {w₀ : Worker σ τ} (hstart : Worker.start capacity period s₀ = .ok w₀)
    (hperiod : period ≠ some 0) (steps : List (WorkerStep τ)) (now : Nat)
    (htime : InTime steps now) : ((of w₀).after r steps).TicksInTime r period steps now := by
  have hphase : (of w₀).worker.phase = .created := congrArg Worker.phase (start_eq hstart)
  have hfirst : (of w₀).worker.period = period := congrArg Worker.period (start_eq hstart)
  have hkept := (period_after r (of w₀) steps).trans hfirst
  refine ⟨fun p hp hrest => ?_, fun hnone => ?_, ?_⟩
  · subst hp
    have hp : p ≠ 0 := fun heq => hperiod (congrArg some heq)
    exact (Schedule.after r hphase rfl hfirst hp steps now htime).ticks_eq hkept hrest
  · exact ticks_after_of_none r (hfirst.trans hnone) steps
  · obtain ⟨moves, hmoves⟩ := exists_moves_runMoves r ((of w₀).after r steps) now _
    have hstop := Worker.next?_poll r now (hkept ▸ hperiod)
    refine ⟨moves, hmoves, hmoves ▸ hstop, ?_⟩
    rw [hmoves]
    exact Worker.atRest_of_next?_none hstop

/-- Counts its ticks; each task takes as long as its number says. -/
def counting : Runnable Nat Nat where
  duration n := n
  run count _ := .ok count
  tick count := .ok (count + 1)
  shutdown count := .ok count

/-- A task that goes on for more than two periods, while another one is queued. -/
def overlong : List (WorkerStep Nat) :=
  [.trySubmit 25, .move .setUp 3, .move .take 5, .trySubmit 1, .move .finish 30, .move .tick 30,
    .move .take 31, .move .finish 33, .move .tick 33, .move .tick 33]

theorem ticks_in_time_overlong :
    ((of ⟨2, some 10, 0, .created, [], [], [], false, false, 0⟩).after counting
      overlong).TicksInTime counting (some 10) overlong 33 ∧
    ((of ⟨2, some 10, 0, .created, [], [], [], false, false, 0⟩).after counting
      overlong).worker.AtRest counting 33 ∧
    ((of ⟨2, some 10, 0, .created, [], [], [], false, false, 0⟩).after counting
      overlong).ticks = (33 - 3) / 10 := by
  have hstart : Worker.start 2 (some 10) 0 =
      .ok (⟨2, some 10, 0, .created, [], [], [], false, false, 0⟩ : Worker Nat Nat) := rfl
  refine ⟨ticks_in_time counting hstart (by decide) overlong 33 (by decide), ?_, by decide⟩
  exact ⟨rfl, rfl, rfl, rfl⟩

end WorkerHistory

end ProcessorHost
