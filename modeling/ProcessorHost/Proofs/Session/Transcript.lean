import Mathlib.Algebra.GroupWithZero.Nat
import Mathlib.Data.List.Induction
import ProcessorHost.Proofs.Session.Isolation

/-!
# Transcripts

A run of a session leaves a transcript of what was done and what was answered. It alone tells what
the manual clock reads, and of each stopwatch which intervals were answered since it was made or
reset and when the running one began. Each action touches at most one stopwatch.
-/

namespace ProcessorHost

/-- What was done in a session and what was answered, the last first. -/
abbrev Transcript := List (Action × Reply)

namespace Transcript

/-- The nanoseconds by which an action moves the manual clock. -/
def advanceOf : Action → Nat
  | .advance amount => min amount.nanos (0x10000000000000000 - 1)
  | _ => 0

/-- What the manual clock reads: the sum of the advances, modulo `2 ^ 64`. -/
def reading (t : Transcript) : Nat :=
  (t.map fun entry => advanceOf entry.1).sum % 0x10000000000000000

/-- An interval of a stopwatch begins. -/
def begins (id : Nat) : Action × Reply → Bool
  | (.newWatch _ _ started, .watch k) => started && k == id
  | (.start k, .done) => k == id
  | _ => false

/-- A stopwatch is made or reset. -/
def resets (id : Nat) : Action × Reply → Bool
  | (.newWatch _ _ _, .watch k) => k == id
  | (.reset k, .done) => k == id
  | _ => false

/-- The interval of a stopwatch that is answered to a stop. -/
def interval? (id : Nat) : Action × Reply → Option Nat
  | (.stop k, .interval length) => if k = id then some length.nanos else none
  | _ => none

/-- The sum of the intervals that were answered since a stopwatch was made or last reset. -/
def measured (id : Nat) (t : Transcript) : Nat :=
  ((t.takeWhile fun entry => !resets id entry).filterMap (interval? id)).sum

/-- The reading at which the running interval of a stopwatch began. -/
def since? (id : Nat) : Transcript → Option Nat
  | [] => none
  | entry :: t =>
    if begins id entry then some (reading t)
    else if resets id entry || (interval? id entry).isSome then none
    else since? id t

/-- The length of the running interval of a stopwatch, zero if the clock reads less than at its
beginning. -/
def running (id : Nat) (t : Transcript) : Nat :=
  match t.since? id with
  | some since => t.reading - since
  | none => 0

def total (id : Nat) (t : Transcript) : Nat := t.measured id + t.running id

/-- Nothing is said of a stopwatch. -/
structure Silent (id : Nat) (entry : Action × Reply) : Prop where
  begins : begins id entry = false
  resets : resets id entry = false
  interval : interval? id entry = none

variable {id : Nat} {entry : Action × Reply} {t : Transcript}

lemma measured_of_resets (hresets : resets id entry = true) (t : Transcript) :
    measured id (entry :: t) = 0 := by
  simp [measured, hresets]

lemma measured_of_not_resets (hresets : resets id entry = false) (t : Transcript) :
    measured id (entry :: t) = (interval? id entry).getD 0 + measured id t := by
  unfold measured
  rw [List.takeWhile_cons_of_pos (by simp [hresets])]
  cases hinterval : interval? id entry with
  | none => simp [hinterval]
  | some length => simp [hinterval]

lemma since?_of_begins (hbegins : begins id entry = true) (t : Transcript) :
    since? id (entry :: t) = some (reading t) := by
  simp [since?, hbegins]

lemma Silent.measured (h : Silent id entry) (t : Transcript) :
    measured id (entry :: t) = Transcript.measured id t := by
  rw [measured_of_not_resets h.resets, h.interval, Option.getD_none, Nat.zero_add]

lemma Silent.since? (h : Silent id entry) (t : Transcript) :
    since? id (entry :: t) = Transcript.since? id t := by
  simp [Transcript.since?, h.begins, h.resets, h.interval]

lemma reading_cons (entry : Action × Reply) (t : Transcript) :
    reading (entry :: t) = (reading t + advanceOf entry.1) % 0x10000000000000000 := by
  unfold reading
  rw [List.map_cons, List.sum_cons]
  omega

end Transcript

namespace Session

open Transcript (Silent begins resets interval?)

def transcript (s : Session) : List Action → Transcript
  | [] => []
  | action :: rest =>
    (s.perform action).1.transcript rest ++ [(action, (s.perform action).2)]

variable {s s' : Session} {id : Nat} {entry : Action × Reply} {t : Transcript}

lemma performAll_concat (s : Session) (before : List Action) (action : Action) :
    s.performAll (before ++ [action]) = ((s.performAll before).perform action).1 := by
  induction before generalizing s with
  | nil => rfl
  | cons first rest ih => exact ih _

lemma transcript_concat (s : Session) (before : List Action) (action : Action) :
    s.transcript (before ++ [action]) =
      (action, ((s.performAll before).perform action).2) :: s.transcript before := by
  induction before generalizing s with
  | nil => rfl
  | cons first rest ih =>
    change transcript _ (rest ++ [action]) ++ _ = _
    rw [ih]
    rfl

/-- What one action may do to a stopwatch. -/
inductive WatchStep (s s' : Session) (id : Nat) : Action × Reply → Prop
  | untouched {entry : Action × Reply} (silent : Silent id entry)
      (after : s'.watch? id = s.watch? id) : WatchStep s s' id entry
  | made (label : String) (source : WatchSource) (started : Bool) (clock : ClockSource)
      (scope : Option Nat)
      (after : s'.watch? id = some (if started then
        (Stopwatch.unstarted label clock scope).restart (s.clocks.read clock)
        else .unstarted label clock scope)) :
      WatchStep s s' id (.newWatch label source started, .watch id)
  | started (w : Stopwatch) (found : s.watch? id = some w)
      (after : s'.watch? id = some (w.restart (s.clocks.read w.clock))) :
      WatchStep s s' id (.start id, .done)
  | stopped (w w' : Stopwatch) (interval : Span) (found : s.watch? id = some w)
      (stop : w.stop (s.clocks.read w.clock) = .stopped w' interval)
      (after : s'.watch? id = some w') : WatchStep s s' id (.stop id, .interval interval)
  | overflowed (w w' : Stopwatch) (found : s.watch? id = some w)
      (stop : w.stop (s.clocks.read w.clock) = .overflow w')
      (after : s'.watch? id = some w') (message : String) :
      WatchStep s s' id (.stop id, .panicked message)
  | reset (w : Stopwatch) (found : s.watch? id = some w)
      (after : s'.watch? id = some w.reset) : WatchStep s s' id (.reset id, .done)
  | dropped (after : s'.watch? id = none) : WatchStep s s' id (.dropWatch id, .done)

lemma watchStep_of_watches (hsilent : Silent id entry) (hwatches : s'.watches = s.watches) :
    WatchStep s s' id entry :=
  .untouched hsilent (by rw [watch?, hwatches, watch?])

lemma newWatch_watchStep (s : Session) (id : Nat) (label : String) (source : WatchSource)
    (started : Bool) : WatchStep s (s.newWatch label source started).1 id
      (.newWatch label source started, (s.newWatch label source started).2) := by
  have hadd (clock : ClockSource) (scope : Option Nat) {s' : Session}
      (hwatches : s'.watches = s.watches ++ [some (if started then
        (Stopwatch.unstarted label clock scope).restart (s.clocks.read clock)
        else .unstarted label clock scope)]) :
      WatchStep s s' id (.newWatch label source started, .watch s.watches.length) := by
    have hafter := Naming.watch?_of_append hwatches id
    by_cases hid : id = s.watches.length
    · rw [if_pos hid] at hafter
      rw [← hid]
      exact .made label source started clock scope hafter
    · rw [if_neg hid] at hafter
      have hne : (s.watches.length == id) = false := beq_false_of_ne (Ne.symm hid)
      exact .untouched ⟨by simp [begins, hne], by simp [resets, hne], rfl⟩ hafter
  unfold newWatch
  dsimp only
  split
  · exact hadd _ _ rfl
  · split
    · exact watchStep_of_watches ⟨rfl, rfl, rfl⟩ rfl
    · exact hadd _ _ rfl

lemma silent_start {k : Nat} (hne : k ≠ id) (reply : Reply) : Silent id (.start k, reply) :=
  ⟨by cases reply <;> simp [begins, hne], rfl, rfl⟩

lemma silent_stop {k : Nat} (hne : k ≠ id) (reply : Reply) : Silent id (.stop k, reply) :=
  ⟨rfl, rfl, by cases reply <;> simp [interval?, hne]⟩

lemma silent_reset {k : Nat} (hne : k ≠ id) (reply : Reply) : Silent id (.reset k, reply) :=
  ⟨rfl, by cases reply <;> simp [resets, hne], rfl⟩

/-- Another stopwatch goes on. -/
lemma watchStep_of_set (hsilent : Silent id entry) {k : Nat} {old : Stopwatch}
    {after : Option Stopwatch} (hold : s.watch? k = some old) (hne : k ≠ id)
    (hset : s'.watches = s.watches.set k after) : WatchStep s s' id entry :=
  .untouched hsilent (by rw [watch?_of_set hold hset, if_neg hne.symm])

lemma start_watchStep (s : Session) (id k : Nat) :
    WatchStep s (s.start k).1 id (.start k, (s.start k).2) := by
  unfold start
  split
  · exact watchStep_of_watches ⟨rfl, rfl, rfl⟩ rfl
  · rename_i watch hwatch
    unfold Stopwatch.start
    by_cases hid : k = id
    · subst hid
      split
      · rename_i after hstart
        split at hstart
        · cases hstart
        · cases hstart
          refine .started watch hwatch ?_
          rw [watch?_of_set hwatch rfl, if_pos rfl]
      · exact watchStep_of_watches ⟨rfl, rfl, rfl⟩ rfl
    · split
      · exact watchStep_of_set (silent_start hid _) hwatch hid rfl
      · exact watchStep_of_watches (silent_start hid _) rfl

lemma stop_watchStep (s : Session) (id k : Nat) :
    WatchStep s (s.stop k).1 id (.stop k, (s.stop k).2) := by
  by_cases hid : k = id
  · subst hid
    unfold stop
    split
    · exact watchStep_of_watches ⟨rfl, rfl, rfl⟩ rfl
    · rename_i watch hwatch
      split
      · exact watchStep_of_watches ⟨rfl, rfl, rfl⟩ rfl
      · rename_i after hstop
        refine .overflowed watch after hwatch hstop ?_ _
        rw [watch?_of_set hwatch rfl, if_pos rfl]
      · rename_i after interval hstop
        have hset : (s.setWatch k (some after)).watch? k = some after := by
          rw [watch?_of_set hwatch rfl, if_pos rfl]
        dsimp only
        split
        · exact .stopped watch after interval hwatch hstop hset
        · refine .stopped watch after interval hwatch hstop ?_
          rwa [watch?, watches_record]
  · rcases s.stop_cases k with ⟨-, hs⟩ | ⟨watch, after, hwatch, -, hset, -⟩
    · exact watchStep_of_watches (silent_stop hid _) (by rw [hs])
    · exact watchStep_of_set (silent_stop hid _) hwatch hid hset

theorem perform_watchStep (s : Session) (id : Nat) (action : Action) :
    WatchStep s (s.perform action).1 id (action, (s.perform action).2) := by
  cases action with
  | openScope clock sink => exact watchStep_of_watches ⟨rfl, rfl, rfl⟩ rfl
  | advance amount => exact watchStep_of_watches ⟨rfl, rfl, rfl⟩ rfl
  | enter k label => exact watchStep_of_watches ⟨rfl, rfl, rfl⟩ (s.watches_enter k label)
  | exit k guard => exact watchStep_of_watches ⟨rfl, rfl, rfl⟩ (s.watches_exit k guard)
  | release guard => exact watchStep_of_watches ⟨rfl, rfl, rfl⟩ (s.watches_release guard false)
  | releaseUnwinding guard =>
    exact watchStep_of_watches ⟨rfl, rfl, rfl⟩ (s.watches_release guard true)
  | forget guard =>
    refine watchStep_of_watches ⟨rfl, rfl, rfl⟩ ?_
    unfold perform
    dsimp only
    split
    · rfl
    · rfl
  | newWatch label source started => exact s.newWatch_watchStep id label source started
  | start k => exact s.start_watchStep id k
  | stop k => exact s.stop_watchStep id k
  | reset k =>
    unfold perform
    dsimp only
    split
    · exact watchStep_of_watches ⟨rfl, rfl, rfl⟩ rfl
    · rename_i watch hwatch
      by_cases hid : k = id
      · subst hid
        refine .reset watch hwatch ?_
        rw [watch?_of_set hwatch rfl, if_pos rfl]
      · exact watchStep_of_set (silent_reset hid _) hwatch hid rfl
  | dropWatch k =>
    unfold perform
    dsimp only
    split
    · exact watchStep_of_watches ⟨rfl, rfl, rfl⟩ rfl
    · rename_i watch hwatch
      by_cases hid : k = id
      · subst hid
        refine .dropped ?_
        rw [watch?_of_set hwatch rfl, if_pos rfl]
      · exact watchStep_of_set ⟨rfl, rfl, rfl⟩ hwatch hid rfl

lemma clocks_record (s : Session) (id : Nat) (stopwatch : String) (interval : Span) :
    (s.record id stopwatch interval).clocks = s.clocks := by
  unfold record
  split
  · rfl
  · split
    · rfl
    · dsimp only
      split
      · rfl
      · rfl

lemma clocks_exit (s : Session) (id : Nat) (guard : Guard) :
    (s.exit id guard).1.clocks = s.clocks := by
  unfold exit
  split
  · rfl
  · split
    · split
      · split
        · rfl
        · rfl
      · rfl
    · rfl

lemma clocks_release (s : Session) (guard : Guard) (unwinding : Bool) :
    (s.release guard unwinding).1.clocks = s.clocks := by
  unfold release
  split
  · rfl
  · split
    · dsimp only
      split
      · rfl
      · rfl
    · rfl

lemma clocks_newWatch (s : Session) (label : String) (source : WatchSource) (started : Bool) :
    (s.newWatch label source started).1.clocks = s.clocks := by
  unfold newWatch
  dsimp only
  split
  · rfl
  · split
    · rfl
    · rfl

lemma clocks_start (s : Session) (id : Nat) : (s.start id).1.clocks = s.clocks := by
  unfold start
  split
  · rfl
  · split
    · rfl
    · rfl

lemma clocks_stop (s : Session) (id : Nat) : (s.stop id).1.clocks = s.clocks := by
  unfold stop
  split
  · rfl
  · split
    · rfl
    · rfl
    · dsimp only
      split
      · rfl
      · exact clocks_record _ _ _ _

/-- Only an advance moves the clocks. -/
lemma clocks_perform (s : Session) (action : Action) :
    (s.perform action).1.clocks = match action with
      | .advance amount => s.clocks.advance amount
      | _ => s.clocks := by
  cases action with
  | exit id guard => exact s.clocks_exit id guard
  | release guard => exact s.clocks_release guard false
  | releaseUnwinding guard => exact s.clocks_release guard true
  | newWatch label source started => exact s.clocks_newWatch label source started
  | start id => exact s.clocks_start id
  | stop id => exact s.clocks_stop id
  | openScope | advance => rfl
  | enter id label =>
    unfold perform enter
    dsimp only
    split
    · rfl
    · rfl
  | forget | reset | dropWatch =>
    unfold perform
    dsimp only
    split
    · rfl
    · rfl

lemma toNat_step (amount : Span) :
    (Clocks.step amount).toNat = min amount.nanos (0x10000000000000000 - 1) := by
  unfold Clocks.step
  rw [UInt64.toNat_ofNat']
  omega

lemma reading_perform (hreading : s.clocks.manual.toNat = t.reading) (action : Action)
    (reply : Reply) :
    (s.perform action).1.clocks.manual.toNat = Transcript.reading ((action, reply) :: t) := by
  rw [clocks_perform, Transcript.reading_cons, ← hreading]
  have hlt := s.clocks.manual.toNat_lt
  cases action with
  | advance amount =>
    change (s.clocks.manual + Clocks.step amount).toNat = _
    rw [UInt64.toNat_add, toNat_step]
    rfl
  | _ => exact (Nat.mod_eq_of_lt hlt).symm

lemma reading_performAll (actions : List Action) :
    (fresh.performAll actions).clocks.manual.toNat = (fresh.transcript actions).reading := by
  induction actions using List.reverseRecOn with
  | nil => rfl
  | append_singleton before action ih =>
    rw [performAll_concat, transcript_concat]
    exact reading_perform ih action _

end Session

end ProcessorHost
