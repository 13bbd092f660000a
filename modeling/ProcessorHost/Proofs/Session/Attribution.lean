import ProcessorHost.Proofs.Session.Filing

/-!
# Attribution of samples

Of each stopwatch it is kept how it was made and when it was last started. A stop that succeeds
is attributed to the scope that its stopwatch was made in, under the context that is innermost
there at that moment; without a scope or without a context it is attributed to nothing. The
samples of a scope are the stops attributed to it, in order, and the sinks get the same samples:
nothing else that is done in a session adds a sample or takes one away.
-/

namespace ProcessorHost

/-- How a stopwatch was made, and the reading at which the interval that it measures began. -/
structure WatchCourse where
  label : String
  scope : Option Nat
  clock : ClockSource
  since : Option UInt64
deriving DecidableEq, Repr

namespace WatchCourse

def begin (c : WatchCourse) (now : UInt64) : WatchCourse := { c with since := some now }

def finish (c : WatchCourse) : WatchCourse := { c with since := none }

/-- The interval that ends at a reading; an empty one if none has begun. -/
def interval (c : WatchCourse) (now : UInt64) : Span := .between (c.since.getD now) now

end WatchCourse

namespace Stopwatch

def course (w : Stopwatch) : WatchCourse := ⟨w.label, w.scope, w.clock, w.runningSince⟩

lemma stop_cases (w : Stopwatch) (now : UInt64) :
    (∃ e, w.stop now = .refused e) ∨
    (∃ after, w.stop now = .overflow after ∧ w.course.finish = after.course) ∨
    ∃ after, w.stop now = .stopped after (w.course.interval now) ∧
      w.course.finish = after.course := by
  unfold stop
  split
  · dsimp only
    split
    · exact .inr (.inr ⟨_, rfl, rfl⟩)
    · exact .inr (.inl ⟨_, rfl, rfl⟩)
  · exact .inl ⟨_, rfl⟩

end Stopwatch

namespace Session

/-- The course of a new stopwatch that reads a clock. -/
def newCourse (s : Session) (label : String) (started : Bool) (clock : ClockSource)
    (scope : Option Nat) : WatchCourse :=
  ⟨label, scope, clock, if started then some (s.clocks.read clock) else none⟩

/-- The course of a new stopwatch; there is none for a scope that does not exist. -/
def newCourse? (s : Session) (label : String) (started : Bool) : WatchSource → Option WatchCourse
  | .free clock => some (s.newCourse label started clock none)
  | .attached id => (s.scope? id).map fun scope => s.newCourse label started scope.clock (some id)

/-- The courses after something has happened, as far as its reply tells. -/
def track (s : Session) (courses : List WatchCourse) (o : Occurrence) : List WatchCourse :=
  match o, (s.undergo o).2 with
  | .act (.newWatch label source started), .watch _ =>
    courses ++ (s.newCourse? label started source).toList
  | .act (.start id), .done => courses.modify id fun c => c.begin (s.clocks.read c.clock)
  | .act (.stop id), .interval _ => courses.modify id .finish
  | .act (.stop id), .panicked _ => courses.modify id .finish
  | .act (.reset id), .done => courses.modify id .finish
  | _, _ => courses

/-- The sample of a stop that succeeds: its interval, under the innermost context of the scope
that its stopwatch belongs to. -/
def attribution? (s : Session) (courses : List WatchCourse) (o : Occurrence) : Option Filing :=
  match o, (s.undergo o).2 with
  | .act (.stop id), .interval interval => do
    let course ← courses[id]?
    let scope ← course.scope
    let context ← (s.scope? scope).bind (·.current?)
    return ⟨scope, ⟨⟨context.label, course.label⟩, interval, s.today⟩⟩
  | _, _ => none

def trackAll (s : Session) (courses : List WatchCourse) : List Occurrence → List WatchCourse
  | [] => courses
  | o :: rest => (s.undergo o).1.trackAll (s.track courses o) rest

/-- The samples of the stops of a run, in order. -/
def attributions (s : Session) (courses : List WatchCourse) : List Occurrence → List Filing
  | [] => []
  | o :: rest =>
    (s.attribution? courses o).toList ++ (s.undergo o).1.attributions (s.track courses o) rest

/-- The stopwatches of a session are on their courses. -/
structure Tracked (s : Session) (courses : List WatchCourse) : Prop where
  length : courses.length = s.watches.length
  course : ∀ id watch, s.watch? id = some watch → courses[id]? = some watch.course

variable {s s' : Session} {courses : List WatchCourse}

lemma Tracked.of_watches (h : s.Tracked courses) (hwatches : s'.watches = s.watches) :
    s'.Tracked courses where
  length := hwatches ▸ h.length
  course id watch hwatch := h.course id watch (by rwa [watch?, hwatches] at hwatch)

lemma lt_of_watch {id : Nat} {watch : Stopwatch} (h : s.watch? id = some watch) :
    id < s.watches.length := by
  obtain ⟨entry, hentry, -⟩ := Option.bind_eq_some_iff.mp h
  exact (List.getElem?_eq_some_iff.mp hentry).1

lemma watch?_of_set {id : Nat} {old : Stopwatch} {after : Option Stopwatch}
    (hold : s.watch? id = some old) (hset : s'.watches = s.watches.set id after) (k : Nat) :
    s'.watch? k = if k = id then after else s.watch? k := by
  have hlt := lt_of_watch hold
  unfold watch?
  rw [hset, List.getElem?_set]
  by_cases hk : id = k
  · subst hk
    simp [hlt]
  · simp [hk, Ne.symm hk]

/-- One stopwatch goes on, and its course with it. -/
lemma Tracked.of_set (h : s.Tracked courses) {id : Nat} {old after : Stopwatch}
    (hold : s.watch? id = some old) (hset : s'.watches = s.watches.set id (some after))
    (f : WatchCourse → WatchCourse) (hf : f old.course = after.course) :
    s'.Tracked (courses.modify id f) where
  length := by rw [List.length_modify, h.length, hset, List.length_set]
  course k watch hwatch := by
    rw [watch?_of_set hold hset] at hwatch
    rw [List.getElem?_modify]
    by_cases hk : k = id
    · subst hk
      rw [if_pos rfl, Option.some.injEq] at hwatch
      simp [h.course k old hold, hf, hwatch]
    · rw [if_neg hk] at hwatch
      simp [Ne.symm hk, h.course k watch hwatch]

lemma Tracked.of_drop (h : s.Tracked courses) {id : Nat} {old : Stopwatch}
    (hold : s.watch? id = some old) (hset : s'.watches = s.watches.set id none) :
    s'.Tracked courses where
  length := by rw [h.length, hset, List.length_set]
  course k watch hwatch := by
    rw [watch?_of_set hold hset] at hwatch
    by_cases hk : k = id
    · simp [hk] at hwatch
    · rw [if_neg hk] at hwatch
      exact h.course k watch hwatch

lemma Tracked.of_new (h : s.Tracked courses) {watch : Stopwatch}
    (hwatches : s'.watches = s.watches ++ [some watch]) :
    s'.Tracked (courses ++ [watch.course]) where
  length := by rw [List.length_append, h.length, hwatches, List.length_append]; rfl
  course k new hnew := by
    by_cases hk : k < s.watches.length
    · have hsame : s'.watch? k = s.watch? k := by
        unfold watch?
        rw [hwatches, List.getElem?_append_left hk]
      rw [List.getElem?_append_left (h.length ▸ hk)]
      exact h.course k new (hsame ▸ hnew)
    · have hlast : k = s.watches.length := by
        have hlt := lt_of_watch hnew
        rw [hwatches, List.length_append, List.length_singleton] at hlt
        omega
      subst hlast
      simp only [watch?, hwatches, List.getElem?_concat_length, Option.join_some,
        Option.some.injEq] at hnew
      rw [← h.length, List.getElem?_concat_length, hnew]

lemma newCourse_eq (s : Session) (label : String) (started : Bool) (clock : ClockSource)
    (scope : Option Nat) : s.newCourse label started clock scope =
      (if started then (Stopwatch.unstarted label clock scope).restart (s.clocks.read clock)
        else Stopwatch.unstarted label clock scope).course := by
  cases started with
  | true => rfl
  | false => rfl

lemma Tracked.newWatch (h : s.Tracked courses) (label : String) (source : WatchSource)
    (started : Bool) : (s.newWatch label source started).1.Tracked
      (s.track courses (.act (.newWatch label source started))) := by
  cases source with
  | free clock =>
    change Tracked _ (courses ++ [s.newCourse label started clock none])
    rw [newCourse_eq]
    exact h.of_new rfl
  | attached id =>
    cases hscope : s.scope? id with
    | none => simpa [track, undergo, perform, Session.newWatch, hscope] using h
    | some scope =>
      simp only [track, undergo, perform, Session.newWatch, hscope, newCourse?, Option.map_some,
        Option.toList_some]
      rw [newCourse_eq]
      exact h.of_new rfl

lemma Tracked.start (h : s.Tracked courses) (id : Nat) :
    (s.start id).1.Tracked (s.track courses (.act (.start id))) := by
  unfold track undergo perform Session.start
  dsimp only
  split
  · exact h
  · rename_i watch hwatch
    unfold Stopwatch.start
    split
    · rename_i heq
      split at heq
      · cases heq
      · cases heq
        exact h.of_set hwatch rfl _ rfl
    · exact h

lemma watches_record (s : Session) (id : Nat) (stopwatch : String) (interval : Span) :
    (s.record id stopwatch interval).watches = s.watches := by
  unfold record
  split
  · rfl
  · split
    · rfl
    · dsimp only
      split
      · rfl
      · rfl

lemma watches_enter (s : Session) (id : Nat) (label : String) :
    (s.enter id label).1.watches = s.watches := by
  unfold enter
  split
  · rfl
  · rfl

lemma watches_exit (s : Session) (id : Nat) (guard : Guard) :
    (s.exit id guard).1.watches = s.watches := by
  unfold exit
  split
  · rfl
  · split
    · split
      · split
        · rfl
        · rfl
      · rfl
    · rfl

lemma watches_release (s : Session) (guard : Guard) (unwinding : Bool) :
    (s.release guard unwinding).1.watches = s.watches := by
  unfold release
  split
  · rfl
  · split
    · dsimp only
      split
      · rfl
      · rfl
    · rfl

/-- What a stop does to its stopwatch, and what it answers. -/
lemma stop_cases (s : Session) (id : Nat) :
    (((s.stop id).2 = .missing ∨ ∃ e, (s.stop id).2 = .refused e) ∧ (s.stop id).1 = s) ∨
    ∃ watch after, s.watch? id = some watch ∧ watch.course.finish = after.course ∧
      (s.stop id).1.watches = s.watches.set id (some after) ∧
      ((s.stop id).2 = .panicked Span.overflowText ∨
        (s.stop id).2 = .interval (watch.course.interval (s.clocks.read watch.clock))) := by
  unfold stop
  split
  · exact .inl ⟨.inl rfl, rfl⟩
  · rename_i watch hwatch
    rcases watch.stop_cases (s.clocks.read watch.clock) with
      ⟨e, hstop⟩ | ⟨after, hstop, hafter⟩ | ⟨after, hstop, hafter⟩
    · rw [hstop]
      exact .inl ⟨.inr ⟨e, rfl⟩, rfl⟩
    · rw [hstop]
      exact .inr ⟨watch, after, hwatch, hafter, rfl, .inl rfl⟩
    · rw [hstop]
      refine .inr ⟨watch, after, hwatch, hafter, ?_⟩
      dsimp only
      split
      · exact ⟨rfl, .inr rfl⟩
      · rename_i k hscope
        exact ⟨watches_record _ k _ _, .inr rfl⟩

lemma Tracked.stop (h : s.Tracked courses) (id : Nat) :
    (s.stop id).1.Tracked (s.track courses (.act (.stop id))) := by
  unfold track undergo perform
  dsimp only
  rcases s.stop_cases id with ⟨hreply, hs⟩ | ⟨watch, after, hwatch, hafter, hset, hreply⟩
  · rw [hs]
    rcases hreply with hreply | ⟨e, hreply⟩
    · rw [hreply]
      exact h
    · rw [hreply]
      exact h
  · rcases hreply with hreply | hreply
    · rw [hreply]
      exact h.of_set hwatch hset _ hafter
    · rw [hreply]
      exact h.of_set hwatch hset _ hafter

/-- Whatever happens, the stopwatches go on along their courses. -/
theorem Tracked.undergo (h : s.Tracked courses) (o : Occurrence) :
    (s.undergo o).1.Tracked (s.track courses o) := by
  cases o with
  | pass clocks today => exact h.of_watches rfl
  | act action =>
    cases action with
    | openScope clock sink => exact h.of_watches rfl
    | advance amount => exact h.of_watches rfl
    | enter id label => exact h.of_watches (s.watches_enter id label)
    | exit id guard => exact h.of_watches (s.watches_exit id guard)
    | release guard => exact h.of_watches (s.watches_release guard false)
    | releaseUnwinding guard => exact h.of_watches (s.watches_release guard true)
    | forget guard =>
      unfold Session.undergo perform
      dsimp only
      split
      · exact h.of_watches rfl
      · exact h
    | newWatch label source started => exact h.newWatch label source started
    | start id => exact h.start id
    | stop id => exact h.stop id
    | reset id =>
      unfold track Session.undergo perform
      dsimp only
      split
      · exact h
      · rename_i watch hwatch
        exact h.of_set hwatch rfl _ rfl
    | dropWatch id =>
      unfold track Session.undergo perform
      dsimp only
      split
      · exact h
      · rename_i watch hwatch
        exact h.of_drop hwatch rfl

/-- What is filed when something happens is what is attributed. -/
theorem undergo_files (h : s.Tracked courses) (o : Occurrence) :
    s.Files (s.attribution? courses o).toList (s.undergo o).1 := by
  cases o with
  | pass clocks today => exact files_of_scopes rfl rfl
  | act action =>
    by_cases hstop : ∃ id, action = .stop id
    · obtain ⟨id, rfl⟩ := hstop
      rcases s.stop_files id with ⟨watch, interval, hwatch, hreply, hfiles⟩ | ⟨hreply, hfiles⟩
      · have hattribution : s.attribution? courses (.act (.stop id)) =
            watch.scope.bind fun k => s.recorded k watch.label interval := by
          unfold attribution? undergo perform
          rw [hreply]
          dsimp only
          rw [h.course id watch hwatch]
          change watch.scope.bind _ = _
          congr 1
          funext k
          unfold recorded
          cases (s.scope? k).bind (·.current?) with
          | none => rfl
          | some context => rfl
        rw [hattribution]
        exact hfiles
      · have hattribution : s.attribution? courses (.act (.stop id)) = none := by
          unfold attribution? undergo perform
          dsimp only
          split
          · rename_i interval _ hsome
            exact absurd hsome (hreply interval)
          · rfl
        rw [hattribution]
        exact hfiles
    · have hattribution : s.attribution? courses (.act action) = none := by
        unfold attribution?
        split
        · rename_i id _ heq _
          exact absurd ⟨id, Occurrence.act.inj heq⟩ hstop
        · rfl
      rw [hattribution]
      exact perform_files (fun id heq => hstop ⟨id, heq⟩) s

/-- What a run files is what is attributed on the way. -/
theorem undergoAll_files (h : s.Tracked courses) (os : List Occurrence) :
    s.Files (s.attributions courses os) (s.undergoAll os) := by
  induction os generalizing s courses with
  | nil => exact Files.refl s
  | cons o rest ih => exact (undergo_files h o).trans (ih (h.undergo o))

theorem Tracked.undergoAll (h : s.Tracked courses) (os : List Occurrence) :
    (s.undergoAll os).Tracked (s.trackAll courses os) := by
  induction os generalizing s courses with
  | nil => exact h
  | cons o rest ih => exact ih (h.undergo o)

/-- What the courses of its stopwatches and the stops attributed so far say about a session. -/
structure RecordsStops (s : Session) (courses : List WatchCourse) (filings : List Filing) :
    Prop where
  /-- The samples of a scope are the stops attributed to it, in order. -/
  samples : ∀ k scope, s.scope? k = some scope →
    scope.samples = (filings.filter fun f => f.scope = k).map (·.sample)
  /-- Each sample of a scope was sent to its sink, in the order of the stops of all scopes, and
  nothing else was sent. -/
  deliveries : s.deliveries = filings.filterMap s.delivery?
  /-- A stop that succeeds ends the interval that began when its stopwatch was last started. -/
  interval : ∀ id interval, (s.perform (.stop id)).2 = .interval interval →
    ∃ course, courses[id]? = some course ∧
      interval = course.interval (s.clocks.read course.clock)

lemma Tracked.interval (h : s.Tracked courses) {id : Nat} {interval : Span}
    (hreply : (s.perform (.stop id)).2 = .interval interval) :
    ∃ course, courses[id]? = some course ∧
      interval = course.interval (s.clocks.read course.clock) := by
  change (s.stop id).2 = .interval interval at hreply
  rcases s.stop_cases id with ⟨hnone, -⟩ | ⟨watch, after, hwatch, -, -, hnone | hsome⟩
  · rcases hnone with hnone | ⟨e, hnone⟩
    · rw [hnone] at hreply
      cases hreply
    · rw [hnone] at hreply
      cases hreply
  · rw [hnone] at hreply
    cases hreply
  · rw [hsome] at hreply
    exact ⟨watch.course, h.course id watch hwatch, (Reply.interval.inj hreply).symm⟩

/-- Whatever happens in a session, its samples are the stops attributed to its scopes. -/
theorem samples_are_attributed_stops (os : List Occurrence) :
    (fresh.undergoAll os).RecordsStops (fresh.trackAll [] os) (fresh.attributions [] os) := by
  have htracked : fresh.Tracked [] := ⟨rfl, by simp [fresh, watch?]⟩
  have hfiles := undergoAll_files htracked os
  constructor
  case samples =>
    intro k scope hscope
    rw [← samplesOf_of_scope hscope, hfiles.samples]
    rfl
  case deliveries => exact hfiles.deliveries
  case interval =>
    intro id interval hreply
    exact (htracked.undergoAll os).interval hreply

end Session

end ProcessorHost
