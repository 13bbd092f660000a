import ProcessorHost.Proofs.Timing.Attending

/-!
# Requests for summaries

Any number of requesters ask a collector for summaries, look after their requests whenever they
like, or give them up, while the worker moves and time passes. As long as the worker is not told
to stop and no task in its hand panics, every request waits for room, is held by the worker, or has
its summary, and a request waits for room only while all slots are taken or kept.
-/

namespace ProcessorHost

/-- A collector and those who have asked it for a summary. -/
structure SummaryDesk where
  collector : Collector
  now : Nat
  /-- The number of requests so far; each is known by the number of those before it. -/
  asked : Nat
  /-- Requests that wait for room in the queue. -/
  waits : List Nat
  /-- Requests that wait for their reply. -/
  queued : List Nat
  givenUp : List Nat
  answers : List (Nat × Except SummaryError TimingAggregate)

inductive DeskStep
  | ask
  | look (request : Nat)
  | giveUp (request : Nat)
  | move (move : WorkerMove)
  | wait (time : Nat)
  /-- What the worker has logged is passed on. -/
  | report
deriving DecidableEq, Repr

namespace SummaryDesk

def opened (collector : Collector) : SummaryDesk := ⟨collector, 0, 0, [], [], [], []⟩

def worker (d : SummaryDesk) : Worker Ledger TimingTask := d.collector.worker

/-- How far a request has come that is not settled. -/
def standing? (d : SummaryDesk) (k : Nat) : Option Collector.SummaryRequest :=
  if k ∈ d.waits then some .waiting else if k ∈ d.queued then some .queued else none

def leave (d : SummaryDesk) (k : Nat) : SummaryDesk :=
  { d with waits := d.waits.erase k, queued := d.queued.erase k }

def enter (d : SummaryDesk) (k : Nat) : Collector.SummaryProgress → SummaryDesk
  | .pending .waiting => { d with waits := d.waits ++ [k] }
  | .pending .queued => { d with queued := d.queued ++ [k] }
  | .done result => { d with answers := d.answers ++ [(k, result)] }

def setWorker (d : SummaryDesk) (worker : Worker Ledger TimingTask) : SummaryDesk :=
  { d with collector := { d.collector with worker } }

/-- The desk after one step; what is not possible is no step. -/
def next (d : SummaryDesk) : DeskStep → SummaryDesk
  | .ask =>
    let (collector, request) := d.collector.ask d.asked
    { d with collector, asked := d.asked + 1 }.enter d.asked
      (match request with
        | .ok request => .pending request
        | .error e => .done (.error e))
  | .look k =>
    match d.standing? k with
    | none => d
    | some request =>
      let (collector, progress) := d.collector.resume k request
      ({ d with collector }.leave k).enter k progress
  | .giveUp k =>
    match d.standing? k with
    | none => d
    | some .waiting =>
      { (d.setWorker (d.worker.abandon k)).leave k with givenUp := d.givenUp ++ [k] }
    | some .queued => { d.leave k with givenUp := d.givenUp ++ [k] }
  | .move move =>
    match d.worker.move? Ledger.runnable d.now move with
    | none => d
    | some worker => d.setWorker worker
  | .wait time => { d with now := max d.now time }
  | .report => d.setWorker { d.worker with state := { d.worker.state with log := [] } }

def after (d : SummaryDesk) (steps : List DeskStep) : SummaryDesk := steps.foldl next d

variable {d d' : SummaryDesk} {k : Nat}

lemma standing?_cases (d : SummaryDesk) (k : Nat) :
    (k ∈ d.waits ∧ d.standing? k = some .waiting) ∨
    (k ∉ d.waits ∧ k ∈ d.queued ∧ d.standing? k = some .queued) ∨ d.standing? k = none := by
  unfold standing?
  by_cases hwaits : k ∈ d.waits
  · exact .inl ⟨hwaits, if_pos hwaits⟩
  · rw [if_neg hwaits]
    by_cases hqueued : k ∈ d.queued
    · exact .inr (.inl ⟨hwaits, hqueued, if_pos hqueued⟩)
    · exact .inr (.inr (if_neg hqueued))

lemma collector_enter (d : SummaryDesk) (k : Nat) (progress : Collector.SummaryProgress) :
    (d.enter k progress).collector = d.collector := by
  match progress with
  | .pending .waiting | .pending .queued | .done result => rfl

lemma answers_enter (d : SummaryDesk) (k : Nat) (progress : Collector.SummaryProgress) :
    (d.enter k progress).answers = d.answers ++ match progress with
      | .pending _ => []
      | .done result => [(k, result)] := by
  match progress with
  | .pending .waiting | .pending .queued => exact (List.append_nil _).symm
  | .done result => rfl

lemma next_move {move : WorkerMove} {w : Worker Ledger TimingTask}
    (hmove : d.worker.move? Ledger.runnable d.now move = some w) :
    d.next (.move move) = d.setWorker w := by
  unfold next
  dsimp only
  rw [hmove]

lemma next_move_none {move : WorkerMove}
    (hmove : d.worker.move? Ledger.runnable d.now move = none) : d.next (.move move) = d := by
  unfold next
  dsimp only
  rw [hmove]

lemma look_eq {k : Nat} {request : Collector.SummaryRequest}
    (hstanding : d.standing? k = some request) :
    d.next (.look k) =
      ({ d with collector := (d.collector.resume k request).1 }.leave k).enter k
        (d.collector.resume k request).2 := by
  unfold next
  dsimp only
  rw [hstanding]

lemma look_none (hstanding : d.standing? k = none) : d.next (.look k) = d := by
  unfold next
  dsimp only
  rw [hstanding]

lemma giveUp_waiting (hstanding : d.standing? k = some .waiting) :
    d.next (.giveUp k) = { (d.setWorker (d.worker.abandon k)).leave k with
      givenUp := d.givenUp ++ [k] } := by
  unfold next
  dsimp only
  rw [hstanding]

lemma giveUp_queued (hstanding : d.standing? k = some .queued) :
    d.next (.giveUp k) = { d.leave k with givenUp := d.givenUp ++ [k] } := by
  unfold next
  dsimp only
  rw [hstanding]

lemma giveUp_none (hstanding : d.standing? k = none) : d.next (.giveUp k) = d := by
  unfold next
  dsimp only
  rw [hstanding]

/-- Every request waits, is held by the worker, was given up, or has a summary. -/
structure Attended (d : SummaryDesk) : Prop where
  attending : d.worker.Attending d.now
  /-- Those who wait for room are those the worker knows of. -/
  tickets : (d.worker.waiting ++ d.worker.granted).Perm d.waits
  nodup : d.waits.Nodup
  known : ∀ k ∈ d.waits, k < d.asked
  held : ∀ k ∈ d.queued, d.worker.Holds k
  settled : ∀ k < d.asked, k ∈ d.waits ∨ k ∈ d.queued ∨ k ∈ d.givenUp ∨
    ∃ a, (k, .ok a) ∈ d.answers
  answered : ∀ answer ∈ d.answers, ∃ a, answer.2 = .ok a

/-- Every request but one is attended to. -/
structure AttendedBut (k : Nat) (d : SummaryDesk) : Prop where
  attending : d.worker.Attending d.now
  nodup : d.waits.Nodup
  known : ∀ j ∈ d.waits, j < d.asked
  held : ∀ j ∈ d.queued, d.worker.Holds j
  settled : ∀ j < d.asked, j ≠ k → j ∈ d.waits ∨ j ∈ d.queued ∨ j ∈ d.givenUp ∨
    ∃ a, (j, .ok a) ∈ d.answers
  answered : ∀ answer ∈ d.answers, ∃ a, answer.2 = .ok a

namespace AttendedBut

lemma waits (h : d.AttendedBut k) (hlt : k < d.asked) (hnew : k ∉ d.waits)
    (htickets : (d.worker.waiting ++ d.worker.granted).Perm (k :: d.waits)) :
    (d.enter k (.pending .waiting)).Attended where
  attending := h.attending
  tickets := htickets.trans (List.perm_append_singleton k _).symm
  nodup := (List.perm_append_singleton k _).nodup_iff.mpr (List.nodup_cons.mpr ⟨hnew, h.nodup⟩)
  known j hj := by
    rcases List.mem_append.mp hj with hj | hj
    · exact h.known j hj
    · rw [List.mem_singleton.mp hj]
      exact hlt
  held := h.held
  settled j hj := by
    by_cases heq : j = k
    · exact .inl (List.mem_append_right _ (List.mem_singleton.mpr heq))
    · exact (h.settled j hj heq).imp_left fun hj => List.mem_append_left _ hj
  answered := h.answered

lemma queued (h : d.AttendedBut k)
    (htickets : (d.worker.waiting ++ d.worker.granted).Perm d.waits) (hheld : d.worker.Holds k) :
    (d.enter k (.pending .queued)).Attended where
  attending := h.attending
  tickets := htickets
  nodup := h.nodup
  known := h.known
  held j hj := by
    rcases List.mem_append.mp hj with hj | hj
    · exact h.held j hj
    · rw [List.mem_singleton.mp hj]
      exact hheld
  settled j hj := by
    by_cases heq : j = k
    · exact .inr (.inl (List.mem_append_right _ (List.mem_singleton.mpr heq)))
    · exact (h.settled j hj heq).imp_right fun hj =>
        hj.imp_left fun hj => List.mem_append_left _ hj
  answered := h.answered

lemma answers (h : d.AttendedBut k)
    (htickets : (d.worker.waiting ++ d.worker.granted).Perm d.waits) (a : TimingAggregate) :
    (d.enter k (.done (.ok a))).Attended where
  attending := h.attending
  tickets := htickets
  nodup := h.nodup
  known := h.known
  held := h.held
  settled j hj := by
    by_cases heq : j = k
    · exact .inr (.inr (.inr ⟨a, List.mem_append_right _ (by rw [heq]; exact List.mem_cons_self)⟩))
    · refine (h.settled j hj heq).imp_right fun hj => hj.imp_right fun hj => hj.imp_right ?_
      rintro ⟨b, hb⟩
      exact ⟨b, List.mem_append_left _ hb⟩
  answered answer hanswer := by
    rcases List.mem_append.mp hanswer with hanswer | hanswer
    · exact h.answered answer hanswer
    · rw [List.mem_singleton.mp hanswer]
      exact ⟨a, rfl⟩

lemma givesUp (h : d.AttendedBut k)
    (htickets : (d.worker.waiting ++ d.worker.granted).Perm d.waits) :
    ({ d with givenUp := d.givenUp ++ [k] } : SummaryDesk).Attended where
  attending := h.attending
  tickets := htickets
  nodup := h.nodup
  known := h.known
  held := h.held
  settled j hj := by
    by_cases heq : j = k
    · exact .inr (.inr (.inl (List.mem_append_right _ (List.mem_singleton.mpr heq))))
    · exact (h.settled j hj heq).imp_right fun hj => hj.imp_right fun hj =>
        hj.imp_left fun hj => List.mem_append_left _ hj
  answered := h.answered

end AttendedBut

lemma Attended.setWorker (h : d.Attended) {w : Worker Ledger TimingTask}
    (hw : w.Attending d.now)
    (htickets : (w.waiting ++ w.granted).Perm (d.worker.waiting ++ d.worker.granted))
    (hholds : ∀ k, d.worker.Holds k → w.Holds k) : (d.setWorker w).Attended :=
  ⟨hw, htickets.trans h.tickets, h.nodup, h.known, fun k hk => hholds k (h.held k hk), h.settled,
    h.answered⟩

lemma Attended.submit (h : d.Attended) (sample : TimingSample) :
    ({ d with collector := (d.collector.submit sample).1 } : SummaryDesk).Attended := by
  unfold Collector.submit
  rcases h.attending.trySubmit (.record sample) with ⟨heq, hroom⟩ | heq
  · rw [show d.collector.worker.trySubmit (.record sample) = _ from heq]
    exact h.setWorker (h.attending.push _ hroom) (.refl _) fun k hk => Worker.holds_push hk _
  · rw [show d.collector.worker.trySubmit (.record sample) = _ from heq]
    exact ⟨h.attending, h.tickets, h.nodup, h.known, h.held, h.settled, h.answered⟩

lemma Attended.move (h : d.Attended) (hsafe : d.worker.Safe) {move : WorkerMove}
    {w : Worker Ledger TimingTask}
    (hmove : d.worker.move? Ledger.runnable d.now move = some w) : (d.setWorker w).Attended := by
  have hproceeds := h.attending.move hsafe hmove
  exact h.setWorker (h.attending.proceeds hproceeds) hproceeds.tickets fun k hk =>
    hproceeds.holds hk

lemma Attended.report (h : d.Attended) : (d.next .report).Attended := by
  have hw := h.attending
  exact h.setWorker ⟨hw.capacity, hw.period, hw.isOpen, hw.unasked, hw.phase, hw.slots, hw.full⟩
    (.refl _) fun k hk => hk

lemma Attended.wait (h : d.Attended) (time : Nat) : (d.next (.wait time)).Attended :=
  ⟨h.attending.later (Nat.le_max_left _ _), h.tickets, h.nodup, h.known, h.held, h.settled,
    h.answered⟩

lemma Attended.asks (h : d.Attended) {w : Worker Ledger TimingTask} (hw : w.Attending d.now)
    (hholds : ∀ j, d.worker.Holds j → w.Holds j) :
    { d.setWorker w with asked := d.asked + 1 }.AttendedBut d.asked where
  attending := hw
  nodup := h.nodup
  known j hj := Nat.lt_succ_of_lt (h.known j hj)
  held j hj := hholds j (h.held j hj)
  settled j hj hne := h.settled j (Nat.lt_of_le_of_ne (Nat.le_of_lt_succ hj) hne)
  answered := h.answered

lemma Attended.leaves (h : d.Attended) (k : Nat) {w : Worker Ledger TimingTask}
    (hw : w.Attending d.now) (hholds : ∀ j, d.worker.Holds j → w.Holds j) :
    ((d.setWorker w).leave k).AttendedBut k where
  attending := hw
  nodup := h.nodup.erase k
  known j hj := h.known j (List.mem_of_mem_erase hj)
  held j hj := hholds j (h.held j (List.mem_of_mem_erase hj))
  settled j hj hne := by
    change j ∈ d.waits.erase k ∨ j ∈ d.queued.erase k ∨ _
    rw [List.mem_erase_of_ne hne, List.mem_erase_of_ne hne]
    exact h.settled j hj
  answered := h.answered

lemma Attended.ask (h : d.Attended) : (d.next .ask).Attended := by
  unfold next Collector.ask
  rcases h.attending.submit_cases d.asked with ⟨heq, hroom⟩ | ⟨heq, hfull⟩
  · rw [show d.collector.worker.submit d.asked (.summary d.asked) = _ from heq]
    have hbut := h.asks (h.attending.push (.summary d.asked) hroom) fun j hj =>
      Worker.holds_push hj _
    refine hbut.queued h.tickets (.inl ?_)
    exact List.mem_append_right _ (List.mem_append_right _ List.mem_cons_self)
  · rw [show d.collector.worker.submit d.asked (.summary d.asked) = _ from heq]
    have hbut := h.asks (h.attending.line_up d.asked hfull) fun j hj => hj
    have hnew : d.asked ∉ d.waits := fun hmem => Nat.lt_irrefl _ (h.known _ hmem)
    refine hbut.waits (Nat.lt_succ_self _) hnew ?_
    change ((d.worker.waiting ++ [d.asked]) ++ d.worker.granted).Perm (d.asked :: d.waits)
    rw [List.append_assoc]
    exact List.perm_middle.trans (h.tickets.cons _)

lemma Attended.reply_cases (h : d.worker.Attending d.now) (k : Nat) :
    (∃ a, (k, a) ∈ d.worker.state.replies ∧ d.collector.reply k = .done (.ok a)) ∨
    (k ∉ d.worker.state.replies.map Prod.fst ∧ d.collector.reply k = .pending .queued) := by
  unfold Collector.reply
  cases hfind : d.collector.worker.state.replies.find? fun entry => entry.1 = k with
  | some entry =>
    have hmem := List.mem_of_find?_eq_some hfind
    have hkey : entry.1 = k := by simpa using List.find?_some hfind
    exact .inl ⟨entry.2, hkey ▸ hmem, rfl⟩
  | none =>
    refine .inr ⟨fun hmem => ?_, ?_⟩
    · obtain ⟨entry, hentry, heq⟩ := List.mem_map.mp hmem
      exact List.find?_eq_none.mp hfind entry hentry (decide_eq_true heq)
    · exact if_neg (by rw [show d.collector.worker.isOver = false from h.not_over]; simp)

lemma Attended.resume_cases (h : d.worker.Attending d.now) (k : Nat) :
    (k ∈ d.worker.granted ∧ d.collector.resume k .waiting =
      ((d.setWorker (d.worker.enqueue k)).collector,
        (d.setWorker (d.worker.enqueue k)).collector.reply k)) ∨
    (k ∉ d.worker.granted ∧ d.collector.resume k .waiting = (d.collector, .pending .waiting)) := by
  unfold Collector.resume
  rcases h.resume_cases k with ⟨hmem, heq⟩ | ⟨hmem, heq⟩
  · refine .inl ⟨hmem, ?_⟩
    rw [show d.collector.worker.resume k (.summary k) = _ from heq]
    rfl
  · refine .inr ⟨hmem, ?_⟩
    rw [show d.collector.worker.resume k (.summary k) = _ from heq]
    rfl

lemma Attended.look_waiting (h : d.Attended) (hk : k ∈ d.waits) :
    (({ d with collector := (d.collector.resume k .waiting).1 }.leave k).enter k
      (d.collector.resume k .waiting).2).Attended := by
  rcases Attended.resume_cases h.attending k with ⟨hmem, heq⟩ | ⟨hmem, heq⟩
  · rw [heq]
    have hw := h.attending.enqueue hmem
    have hbut := h.leaves k hw fun j hj => Worker.holds_enqueue k hj
    have hperm : (d.worker.waiting ++ d.worker.granted.erase k).Perm (d.waits.erase k) := by
      -- Whoever has a slot kept does not wait for one as well.
      have hnot : k ∉ d.worker.waiting := fun hwaiting =>
        List.disjoint_of_nodup_append (h.tickets.nodup_iff.mpr h.nodup) hwaiting hmem
      rw [← List.erase_append_right _ hnot]
      exact h.tickets.erase k
    rcases Attended.reply_cases (d := d.setWorker (d.worker.enqueue k)) hw k with
      ⟨a, -, hreply⟩ | ⟨-, hreply⟩
    · rw [hreply]
      exact hbut.answers hperm a
    · rw [hreply]
      exact hbut.queued hperm (d.worker.enqueue_holds k)
  · rw [heq]
    exact (h.leaves k h.attending fun j hj => hj).waits (h.known k hk) h.nodup.not_mem_erase
      (h.tickets.trans (List.perm_cons_erase hk))

lemma Attended.look_queued (h : d.Attended) (hk : k ∉ d.waits) (hqueued : k ∈ d.queued) :
    ((d.leave k).enter k (d.collector.reply k)).Attended := by
  have hbut := h.leaves k h.attending fun j hj => hj
  have htickets : (d.worker.waiting ++ d.worker.granted).Perm (d.waits.erase k) := by
    rw [List.erase_of_not_mem hk]
    exact h.tickets
  rcases Attended.reply_cases h.attending k with ⟨a, -, hreply⟩ | ⟨-, hreply⟩
  · rw [hreply]
    exact hbut.answers htickets a
  · rw [hreply]
    exact hbut.queued htickets (h.held k hqueued)

lemma Attended.look (h : d.Attended) (k : Nat) : (d.next (.look k)).Attended := by
  rcases d.standing?_cases k with ⟨hk, hstanding⟩ | ⟨hk, hqueued, hstanding⟩ | hstanding
  · rw [look_eq hstanding]
    exact h.look_waiting hk
  · rw [look_eq hstanding]
    exact h.look_queued hk hqueued
  · rw [look_none hstanding]
    exact h

lemma abandon_perm {w : Worker Ledger TimingTask} (k : Nat)
    (hmem : k ∈ w.waiting ++ w.granted) (hnodup : (w.waiting ++ w.granted).Nodup) :
    ((w.abandon k).waiting ++ (w.abandon k).granted).Perm ((w.waiting ++ w.granted).erase k) := by
  unfold Worker.abandon
  by_cases hgranted : k ∈ w.granted
  · rw [if_pos hgranted, List.erase_append_right _ fun hwaiting =>
      List.disjoint_of_nodup_append hnodup hwaiting hgranted]
    exact Worker.release_perm { w with granted := w.granted.erase k }
  · rw [if_neg hgranted, List.erase_append_left _
      ((List.mem_append.mp hmem).resolve_right hgranted)]

lemma Attended.giveUp (h : d.Attended) (k : Nat) : (d.next (.giveUp k)).Attended := by
  rcases d.standing?_cases k with ⟨hk, hstanding⟩ | ⟨hk, -, hstanding⟩ | hstanding
  · rw [giveUp_waiting hstanding]
    have hperm := abandon_perm k (h.tickets.mem_iff.mpr hk) (h.tickets.nodup_iff.mpr h.nodup)
    have hbut := h.leaves k (h.attending.abandon k) fun j hj => Worker.holds_abandon k hj
    exact hbut.givesUp (hperm.trans (h.tickets.erase k))
  · rw [giveUp_queued hstanding]
    refine (h.leaves k h.attending fun j hj => hj).givesUp ?_
    change (d.worker.waiting ++ d.worker.granted).Perm (d.waits.erase k)
    rw [List.erase_of_not_mem hk]
    exact h.tickets
  · rw [giveUp_none hstanding]
    exact h

lemma Attended.opened {collector : Collector} (h : collector.worker.Attending 0)
    (hwaiting : collector.worker.waiting = []) (hgranted : collector.worker.granted = []) :
    (opened collector).Attended := by
  refine ⟨h, ?_, List.nodup_nil, nofun, nofun, nofun, nofun⟩
  change (collector.worker.waiting ++ collector.worker.granted).Perm []
  rw [hwaiting, hgranted]
  exact .refl _

theorem Attended.next (h : d.Attended) (hsafe : d.worker.Safe) (step : DeskStep) :
    (d.next step).Attended := by
  cases step with
  | ask => exact h.ask
  | look k => exact h.look k
  | giveUp k => exact h.giveUp k
  | move move =>
    cases hmove : d.worker.move? Ledger.runnable d.now move with
    | none =>
      rw [next_move_none hmove]
      exact h
    | some w =>
      rw [next_move hmove]
      exact h.move hsafe hmove
  | wait time => exact h.wait time
  | report => exact h.report

end SummaryDesk

end ProcessorHost
