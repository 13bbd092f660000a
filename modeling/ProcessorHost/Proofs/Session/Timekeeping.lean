import ProcessorHost.Proofs.Session.Transcript

/-!
# Time that stopwatches measure

A stopwatch on the manual clock is in the state that the transcript of its session says: it runs
since the reading at which its running interval began, and its total is the sum of the intervals
that it answered since it was made or reset. One action after the other keeps it so, unless the
total gets too long.
-/

namespace ProcessorHost

namespace Stopwatch

open Transcript (Silent begins resets interval?)

/-- A stopwatch is in the state that a transcript says. -/
structure Follows (w : Stopwatch) (id : Nat) (t : Transcript) : Prop where
  since : w.runningSince.map UInt64.toNat = t.since? id
  running : w.isRunning = w.runningSince.isSome
  accumulated : w.accumulated.nanos = t.measured id

variable {w w' : Stopwatch} {now : UInt64} {interval : Span} {id : Nat} {t : Transcript}

lemma stop_of_not_running (hidle : w.isRunning = false) (now : UInt64) :
    w.stop now = .refused (.notRunning w.label) := by
  simp [stop, hidle]

lemma stop_of_running (hrunning : w.isRunning = true) {accumulated : Span}
    (hadd : w.accumulated.add? (.between (w.runningSince.getD now) now) = some accumulated) :
    w.stop now = .stopped { w with runningSince := none, accumulated, state := .stopped }
      (.between (w.runningSince.getD now) now) := by
  unfold stop
  rw [if_pos hrunning]
  dsimp only
  rw [hadd]

/-- What a stop that succeeds does. -/
lemma of_stop_stopped (hstop : w.stop now = .stopped w' interval) :
    w'.runningSince = none ∧ w'.isRunning = false ∧ w'.clock = w.clock ∧
      w'.accumulated.nanos = w.accumulated.nanos + interval.nanos := by
  unfold stop at hstop
  split at hstop
  · dsimp only at hstop
    split at hstop
    · rename_i accumulated hadd
      cases hstop
      exact ⟨rfl, rfl, rfl, Span.add?_eq_some_iff.mp hadd⟩
    · cases hstop
  · cases hstop

lemma of_stop_overflow (hstop : w.stop now = .overflow w') :
    w.isRunning = true ∧ w'.clock = w.clock := by
  unfold stop at hstop
  split at hstop
  · rename_i hrunning
    dsimp only at hstop
    split at hstop
    · cases hstop
    · cases hstop
      exact ⟨hrunning, rfl⟩
  · cases hstop

namespace Follows

lemma silent (h : w.Follows id t) {entry : Action × Reply} (hsilent : Silent id entry) :
    w.Follows id (entry :: t) where
  since := h.since.trans (hsilent.since? t).symm
  running := h.running
  accumulated := h.accumulated.trans (hsilent.measured t).symm

lemma restart (h : w.Follows id t) (hnow : now.toNat = t.reading) :
    (w.restart now).Follows id ((.start id, .done) :: t) where
  since := by
    rw [Transcript.since?_of_begins (by simp [begins]), ← hnow]
    rfl
  running := rfl
  accumulated := by
    rw [Transcript.measured_of_not_resets rfl]
    exact h.accumulated.trans (Nat.zero_add _).symm

lemma stopped (h : w.Follows id t) (hstop : w.stop now = .stopped w' interval) :
    w'.Follows id ((.stop id, .interval interval) :: t) := by
  obtain ⟨hsince, hidle, -, htotal⟩ := of_stop_stopped hstop
  constructor
  case since => simp [Transcript.since?, begins, interval?, hsince]
  case running =>
    rw [hidle, hsince]
    rfl
  case accumulated =>
    rw [Transcript.measured_of_not_resets rfl, htotal, h.accumulated, Nat.add_comm]
    simp [interval?]

lemma reset (w : Stopwatch) (id : Nat) (t : Transcript) :
    w.reset.Follows id ((.reset id, .done) :: t) where
  since := by simp [Transcript.since?, begins, resets, Stopwatch.reset]
  running := rfl
  accumulated := (Transcript.measured_of_resets (by simp [resets]) t).symm

lemma unstarted (label : String) (source : WatchSource) (clock : ClockSource)
    (scope : Option Nat) (id : Nat) (t : Transcript) : (unstarted label clock scope).Follows id
      ((.newWatch label source false, .watch id) :: t) where
  since := by simp [Transcript.since?, begins, resets, Stopwatch.unstarted]
  running := rfl
  accumulated := (Transcript.measured_of_resets (by simp [resets]) t).symm

lemma started (label : String) (source : WatchSource) (clock : ClockSource) (scope : Option Nat)
    (id : Nat) (hnow : now.toNat = t.reading) :
    ((Stopwatch.unstarted label clock scope).restart now).Follows id
      ((.newWatch label source true, .watch id) :: t) where
  since := by
    rw [Transcript.since?_of_begins (by simp [begins]), ← hnow]
    rfl
  running := rfl
  accumulated := (Transcript.measured_of_resets (by simp [resets]) t).symm

lemma since_of_running (h : w.Follows id t) (hrunning : w.isRunning = true) :
    ∃ start, w.runningSince = some start ∧ t.running id = t.reading - start.toNat := by
  obtain ⟨start, hstart⟩ := Option.isSome_iff_exists.mp (h.running.symm.trans hrunning)
  refine ⟨start, hstart, ?_⟩
  unfold Transcript.running
  rw [← h.since, hstart]
  rfl

lemma since_of_idle (h : w.Follows id t) (hidle : w.isRunning = false) :
    w.runningSince = none ∧ t.running id = 0 := by
  have hnone : w.runningSince = none :=
    Option.isSome_eq_false_iff.mp (h.running.symm.trans hidle) |> Option.isNone_iff_eq_none.mp
  refine ⟨hnone, ?_⟩
  unfold Transcript.running
  rw [← h.since, hnone]
  rfl

/-- The total of a stopwatch is the total of the transcript, unless that is too long. -/
lemma elapsed (h : w.Follows id t) (hnow : now.toNat = t.reading) :
    w.elapsed? now = Span.ofNanos? (t.total id) := by
  unfold elapsed? Transcript.total
  cases hrunning : w.isRunning with
  | false =>
    obtain ⟨hnone, hzero⟩ := h.since_of_idle hrunning
    have hfits : w.accumulated.nanos + 0 < 0x10000000000000000 * 1000000000 :=
      w.accumulated.nanos_lt
    rw [hnone, hzero, ← h.accumulated]
    unfold Span.ofNanos?
    rw [dif_pos hfits]
    rfl
  | true =>
    obtain ⟨start, hstart, hlength⟩ := h.since_of_running hrunning
    rw [hstart, hlength, ← h.accumulated, ← hnow]
    rfl

/-- A stop answers the length of the running interval. -/
lemma stop (h : w.Follows id t) (hnow : now.toNat = t.reading) (hrunning : w.isRunning = true)
    (hfits : t.total id < 0x10000000000000000 * 1000000000) :
    ∃ after interval, w.stop now = .stopped after interval ∧
      interval.nanos = t.running id := by
  obtain ⟨start, hstart, hlength⟩ := h.since_of_running hrunning
  unfold Transcript.total at hfits
  rw [hlength, ← h.accumulated, ← hnow] at hfits
  have hadd : w.accumulated.add? (.between (w.runningSince.getD now) now) = some ⟨_, hfits⟩ := by
    rw [hstart]
    exact dif_pos hfits
  refine ⟨_, _, stop_of_running hrunning hadd, ?_⟩
  rw [hstart, hlength, ← hnow]
  rfl

end Follows

end Stopwatch

namespace Session

open Transcript (interval?)

variable {s s' : Session} {id : Nat} {entry : Action × Reply} {t : Transcript}

/-- A stopwatch on the manual clock stays in the state that the transcript says. -/
lemma WatchStep.follows (hstep : WatchStep s s' id entry)
    (hreading : s.clocks.manual.toNat = t.reading)
    (hfollows : ∀ w, s.watch? id = some w → w.clock = .manual → w.Follows id t)
    (hfits : entry.1 = .stop id → t.total id < 0x10000000000000000 * 1000000000) :
    ∀ w, s'.watch? id = some w → w.clock = .manual → w.Follows id (entry :: t) := by
  intro w hw hclock
  cases hstep with
  | untouched silent after => exact (hfollows w (after ▸ hw) hclock).silent silent
  | made label source started clock scope after =>
    obtain rfl := Option.some.inj (after.symm.trans hw)
    cases started with
    | true =>
      obtain rfl : clock = .manual := hclock
      exact .started label source .manual scope id hreading
    | false => exact .unstarted label source clock scope id t
  | started old found after =>
    obtain rfl := Option.some.inj (after.symm.trans hw)
    have hmanual : old.clock = .manual := hclock
    rw [hmanual]
    exact (hfollows old found hmanual).restart hreading
  | stopped old _ interval found stop after =>
    obtain rfl := Option.some.inj (after.symm.trans hw)
    obtain ⟨-, -, hsame, -⟩ := Stopwatch.of_stop_stopped stop
    exact (hfollows old found (hsame ▸ hclock)).stopped stop
  | overflowed old _ found stop after message =>
    -- Then the total of the transcript would be too long.
    obtain rfl := Option.some.inj (after.symm.trans hw)
    obtain ⟨hrunning, hsame⟩ := Stopwatch.of_stop_overflow stop
    rw [hsame] at hclock
    rw [hclock] at stop
    obtain ⟨_, _, hstopped, -⟩ :=
      (hfollows old found hclock).stop hreading hrunning (hfits rfl)
    cases hstopped.symm.trans stop
  | reset old found after =>
    obtain rfl := Option.some.inj (after.symm.trans hw)
    exact .reset old id t
  | dropped after =>
    rw [after] at hw
    cases hw

/-- Whenever a stopwatch is stopped, its total is not too long. -/
def StopsFit (s : Session) (actions : List Action) (id : Nat) : Prop :=
  ∀ n, actions[n]? = some (.stop id) →
    (s.transcript (actions.take n)).total id < 0x10000000000000000 * 1000000000

lemma StopsFit.of_concat {before : List Action} {action : Action}
    (hfits : s.StopsFit (before ++ [action]) id) :
    s.StopsFit before id ∧ (action = .stop id →
      (s.transcript before).total id < 0x10000000000000000 * 1000000000) := by
  constructor
  · intro n hn
    obtain ⟨hlt, -⟩ := List.getElem?_eq_some_iff.mp hn
    have hsooner := hfits n (by rwa [List.getElem?_append_left hlt])
    rwa [List.take_append_of_le_length (Nat.le_of_lt hlt)] at hsooner
  · rintro rfl
    have hlast := hfits before.length List.getElem?_concat_length
    rwa [List.take_left] at hlast

/-- By induction on the run, of which the last action comes last. -/
lemma follows_performAll {actions : List Action} (hfits : fresh.StopsFit actions id) :
    ∀ w, (fresh.performAll actions).watch? id = some w → w.clock = .manual →
      w.Follows id (fresh.transcript actions) := by
  induction actions using List.reverseRecOn with
  | nil =>
    intro w hw
    simp [performAll, fresh, watch?] at hw
  | append_singleton before action ih =>
    obtain ⟨hbefore, hlast⟩ := hfits.of_concat
    rw [performAll_concat, transcript_concat]
    exact (perform_watchStep _ id action).follows (reading_performAll before) (ih hbefore) hlast

/-- What a stopwatch shows and answers, as a transcript tells it. -/
structure KeepsTime (s : Session) (id : Nat) (w : Stopwatch) (t : Transcript) : Prop where
  since : w.runningSince.map UInt64.toNat = t.since? id
  since_iff : w.runningSince.isSome ↔ w.state = .running
  start_running : w.state = .running →
    s.perform (.start id) = (s, .refused (.alreadyRunning w.label))
  start_idle : w.state ≠ .running → (s.perform (.start id)).2 = .done
  stop_running : w.state = .running → t.total id < 0x10000000000000000 * 1000000000 →
    ∃ interval, (s.perform (.stop id)).2 = .interval interval ∧ interval.nanos = t.running id
  stop_idle : w.state ≠ .running →
    s.perform (.stop id) = (s, .refused (.notRunning w.label))
  /-- The total with the running interval, unless it is too long. -/
  elapsed : w.elapsed? (s.clocks.read w.clock) = Span.ofNanos? (t.total id)

lemma start_of_watch {w : Stopwatch} (hw : s.watch? id = some w) : s.perform (.start id) =
    if w.isRunning then (s, .refused (.alreadyRunning w.label))
    else (s.setWatch id (some (w.restart (s.clocks.read w.clock))), .done) := by
  by_cases hrunning : w.isRunning = true
  · simp [perform, start, hw, Stopwatch.start, hrunning]
  · simp [perform, start, hw, Stopwatch.start, hrunning]

lemma stop_of_refused {w : Stopwatch} (hw : s.watch? id = some w) {error : UsageError}
    (hstop : w.stop (s.clocks.read w.clock) = .refused error) :
    s.perform (.stop id) = (s, .refused error) := by
  unfold perform stop
  dsimp only
  rw [hw]
  dsimp only
  rw [hstop]

lemma stop_of_stopped {w after : Stopwatch} {interval : Span} (hw : s.watch? id = some w)
    (hstop : w.stop (s.clocks.read w.clock) = .stopped after interval) :
    (s.perform (.stop id)).2 = .interval interval := by
  unfold perform stop
  dsimp only
  rw [hw]
  dsimp only
  rw [hstop]
  dsimp only
  split
  · rfl
  · rfl

/-- Whatever is done in a session, a stopwatch on the manual clock keeps the time of the
intervals that begin and end, as long as their sum is not too long. -/
theorem stopwatch_keeps_time {actions : List Action} {w : Stopwatch}
    (hw : (fresh.performAll actions).watch? id = some w) (hclock : w.clock = .manual)
    (hfits : fresh.StopsFit actions id) :
    (fresh.performAll actions).KeepsTime id w (fresh.transcript actions) := by
  have hfollows := follows_performAll hfits w hw hclock
  have hreading : ((fresh.performAll actions).clocks.read w.clock).toNat =
      (fresh.transcript actions).reading := by
    rw [hclock]
    exact reading_performAll actions
  have hrunning : w.isRunning = true ↔ w.state = .running := decide_eq_true_iff
  constructor
  case since => exact hfollows.since
  case since_iff => rw [← hrunning, hfollows.running]
  case start_running =>
    intro h
    rw [start_of_watch hw, if_pos (hrunning.mpr h)]
  case start_idle =>
    intro h
    rw [start_of_watch hw, if_neg (hrunning.not.mpr h)]
  case stop_running =>
    intro h htotal
    obtain ⟨after, interval, hstop, hlength⟩ :=
      hfollows.stop hreading (hrunning.mpr h) htotal
    exact ⟨interval, stop_of_stopped hw hstop, hlength⟩
  case stop_idle =>
    intro h
    have hidle : w.isRunning = false := Bool.eq_false_iff.mpr (hrunning.not.mpr h)
    exact stop_of_refused hw (Stopwatch.stop_of_not_running hidle _)
  case elapsed => exact hfollows.elapsed hreading

/-- Two intervals, of which the second ends where the clock reads less, a third that a reset
forgets, and a fourth that is running. -/
def interruptedActions : List Action :=
  [.newWatch "watch" (.free .manual) false, .stop 0, .advance ⟨50, by decide⟩, .start 0,
    .advance ⟨70, by decide⟩, .start 0, .stop 0, .start 0,
    .advance ⟨0x10000000000000000 - 100, by decide⟩, .stop 0, .start 0, .advance ⟨30, by decide⟩,
    .reset 0, .start 0, .advance ⟨40, by decide⟩]

theorem interrupted_stopwatch_keeps_time :
    (fresh.performAll interruptedActions).KeepsTime 0
        ⟨"watch", .running, .zero, some 50, .manual, none⟩ (fresh.transcript interruptedActions) ∧
      (fresh.transcript interruptedActions).filterMap (interval? 0) = [0, 70] ∧
      (fresh.transcript interruptedActions).total 0 = 40 := by
  have hfits : ∀ n < interruptedActions.length,
      (fresh.transcript (interruptedActions.take n)).total 0 <
        0x10000000000000000 * 1000000000 := by decide
  exact ⟨stopwatch_keeps_time rfl rfl fun n hn => hfits n (List.getElem?_eq_some_iff.mp hn).1,
    by decide, by decide⟩

end Session

end ProcessorHost
