import ProcessorHost.Proofs.Timing.SummaryDesk

/-!
# Summaries come

A request for a summary that is not given up gets its answer in whatever order the worker and the
requesters go on, as long as no task in the worker's hand panics: something can go on as long as a
request is open, and whatever does leaves less to be done.
-/

namespace ProcessorHost

namespace SummaryDesk

variable {d d' : SummaryDesk} {k : Nat}

/-- What goes on by itself: the worker moves, or a requester looks who would get further. -/
inductive Progress (d : SummaryDesk) : SummaryDesk → Prop
  | move (move : WorkerMove) (w : Worker Ledger TimingTask)
      (hmove : d.worker.move? Ledger.runnable d.now move = some w) : Progress d (d.setWorker w)
  | look (k : Nat) (request : Collector.SummaryRequest) (hstanding : d.standing? k = some request)
      (hready : d.collector.canResume k request = true) : Progress d (d.next (.look k))

/-- In whatever order things go on, it comes to this. -/
inductive Inevitable (P : SummaryDesk → Prop) : SummaryDesk → Prop
  | holds {d : SummaryDesk} (h : P d) : Inevitable P d
  | goesOn {d : SummaryDesk} (hgoes : ∃ d', d.Progress d')
      (h : ∀ d', d.Progress d' → Inevitable P d') : Inevitable P d

def remaining (d : SummaryDesk) : Nat :=
  d.worker.workLeft d.now + d.waits.length + d.queued.length

lemma Inevitable.mono {P Q : SummaryDesk → Prop} (h : d.Inevitable P) (hpq : ∀ d, P d → Q d) :
    d.Inevitable Q := by
  induction h with
  | holds h => exact .holds (hpq _ h)
  | goesOn hgoes _ ih => exact .goesOn hgoes ih

lemma Progress.exists_step (hprogress : d.Progress d') : ∃ step, d.next step = d' := by
  cases hprogress with
  | move move w hmove => exact ⟨.move move, next_move hmove⟩
  | look k request hstanding hready => exact ⟨.look k, rfl⟩

lemma enter_same (d : SummaryDesk) (k : Nat) (progress : Collector.SummaryProgress) :
    (d.enter k progress).asked = d.asked ∧ (d.enter k progress).givenUp = d.givenUp := by
  match progress with
  | .pending .waiting => exact ⟨rfl, rfl⟩
  | .pending .queued => exact ⟨rfl, rfl⟩
  | .done result => exact ⟨rfl, rfl⟩

lemma remaining_enter (d : SummaryDesk) (k : Nat) (progress : Collector.SummaryProgress) :
    (d.enter k progress).remaining ≤ d.remaining + 1 := by
  unfold remaining
  match progress with
  | .pending .waiting =>
    change d.worker.workLeft d.now + (d.waits ++ [k]).length + d.queued.length ≤ _
    rw [List.length_append, List.length_singleton]
    omega
  | .pending .queued =>
    change d.worker.workLeft d.now + d.waits.length + (d.queued ++ [k]).length ≤ _
    rw [List.length_append, List.length_singleton]
    omega
  | .done result => exact Nat.le_succ _

lemma Progress.same (hprogress : d.Progress d') : d'.asked = d.asked ∧ d'.givenUp = d.givenUp := by
  cases hprogress with
  | move move w hmove => exact ⟨rfl, rfl⟩
  | look k request hstanding hready =>
    rw [look_eq hstanding]
    exact enter_same _ k _

lemma Attended.remaining_look_waiting (h : d.Attended) (hk : k ∈ d.waits)
    (hstanding : d.standing? k = some .waiting)
    (hready : d.collector.canResume k .waiting = true) :
    (d.next (.look k)).remaining < d.remaining := by
  have hmem : k ∈ d.worker.granted := by
    unfold Collector.canResume Worker.canResume at hready
    have hopen : d.collector.worker.closed = false := h.attending.isOpen
    rw [hopen, Bool.false_or, decide_eq_true_eq] at hready
    exact hready
  rcases Attended.resume_cases h.attending k with ⟨-, hresume⟩ | ⟨hnot, -⟩
  · rw [look_eq hstanding, hresume]
    have hlt : (d.worker.enqueue k).workLeft d.now < d.worker.workLeft d.now :=
      Worker.workLeft_enqueue hmem
    have hwaits : (d.waits.erase k).length = d.waits.length - 1 := List.length_erase_of_mem hk
    have hpos := List.length_pos_of_mem hk
    have hqueued : (d.queued.erase k).length ≤ d.queued.length := List.length_erase_le
    refine Nat.lt_of_le_of_lt (remaining_enter _ k _) ?_
    change (d.worker.enqueue k).workLeft d.now + (d.waits.erase k).length +
      (d.queued.erase k).length + 1 < d.worker.workLeft d.now + d.waits.length + d.queued.length
    omega
  · exact absurd hmem hnot

lemma Attended.remaining_look_queued (h : d.Attended) (hk : k ∉ d.waits) (hqueued : k ∈ d.queued)
    (hstanding : d.standing? k = some .queued)
    (hready : d.collector.canResume k .queued = true) :
    (d.next (.look k)).remaining < d.remaining := by
  have hmem : k ∈ d.worker.state.replies.map Prod.fst := by
    unfold Collector.canResume at hready
    have hover : d.collector.worker.isOver = false := h.attending.not_over
    rw [hover, Bool.false_or, List.any_eq_true] at hready
    obtain ⟨entry, hentry, heq⟩ := hready
    exact List.mem_map.mpr ⟨entry, hentry, of_decide_eq_true heq⟩
  rcases Attended.reply_cases h.attending k with ⟨a, -, hreply⟩ | ⟨hnot, -⟩
  · have hlook : d.next (.look k) = (d.leave k).enter k (.done (.ok a)) := by
      rw [look_eq hstanding, ← hreply]
      rfl
    have hlength : (d.queued.erase k).length = d.queued.length - 1 :=
      List.length_erase_of_mem hqueued
    have hpos := List.length_pos_of_mem hqueued
    rw [hlook]
    change d.worker.workLeft d.now + (d.waits.erase k).length + (d.queued.erase k).length < _
    unfold remaining
    rw [List.erase_of_not_mem hk]
    omega
  · exact absurd hmem hnot

theorem Attended.remaining_lt (h : d.Attended) (hsafe : d.worker.Safe)
    (hprogress : d.Progress d') : d'.remaining < d.remaining := by
  cases hprogress with
  | move move w hmove =>
    have hlt := (h.attending.move hsafe hmove).workLeft_lt
    change w.workLeft d.now + d.waits.length + d.queued.length < d.remaining
    unfold remaining
    omega
  | look k request hstanding hready =>
    rcases d.standing?_cases k with ⟨hk, heq⟩ | ⟨hk, hqueued, heq⟩ | heq
    · obtain rfl := Option.some.inj (heq.symm.trans hstanding)
      exact h.remaining_look_waiting hk hstanding hready
    · obtain rfl := Option.some.inj (heq.symm.trans hstanding)
      exact h.remaining_look_queued hk hqueued hstanding hready
    · rw [heq] at hstanding
      cases hstanding

lemma Attended.progress_queued (h : d.Attended) (hphase : d.worker.phase = .waiting)
    (hqueue : d.worker.queue = []) (hwaits : d.waits = []) (hk : k ∈ d.queued) :
    ∃ d', d.Progress d' := by
  have hheld := h.held k hk
  unfold Worker.Holds at hheld
  rw [hphase, hqueue] at hheld
  -- Nothing is in its hand or in its queue, so it has answered what it holds.
  have hreplied : k ∈ d.worker.state.replies.map Prod.fst := hheld.resolve_left nofun
  obtain ⟨entry, hentry, heq⟩ := List.mem_map.mp hreplied
  refine ⟨_, .look k .queued ?_ ?_⟩
  · unfold standing?
    rw [if_neg (by simp [hwaits]), if_pos hk]
  · unfold Collector.canResume
    rw [Bool.or_eq_true, List.any_eq_true]
    exact .inr ⟨entry, hentry, decide_eq_true heq⟩

lemma Attended.progress_waits (h : d.Attended) (hqueue : d.worker.queue = [])
    (hwaits : d.waits ≠ []) : ∃ d', d.Progress d' := by
  -- Somebody waits only while no slot is free, and the queue is empty: so some slot is kept.
  have hgranted : d.worker.granted ≠ [] := by
    intro hnil
    have hlength := h.tickets.length_eq
    rw [hnil, List.append_nil] at hlength
    have hne : d.worker.waiting ≠ [] := fun heq => hwaits (List.eq_nil_of_length_eq_zero (by
      rw [← hlength, heq, List.length_nil]))
    have hfull := h.attending.full hne
    have hpos := h.attending.capacity
    simp only [hqueue, hnil, List.length_nil] at hfull
    omega
  obtain ⟨j, rest, hcons⟩ := List.exists_cons_of_ne_nil hgranted
  have hj : j ∈ d.worker.granted := by rw [hcons]; exact List.mem_cons_self
  refine ⟨_, .look j .waiting ?_ ?_⟩
  · exact if_pos (h.tickets.mem_iff.mp (List.mem_append_right _ hj))
  · unfold Collector.canResume Worker.canResume
    rw [Bool.or_eq_true]
    exact .inr (decide_eq_true hj)

/-- As long as a request is open, something can go on. -/
theorem Attended.exists_progress (h : d.Attended) (hk : k ∈ d.waits ∨ k ∈ d.queued) :
    ∃ d', d.Progress d' := by
  by_cases hbusy : d.worker.phase = .waiting → d.worker.queue ≠ []
  · obtain ⟨move, w, hmove⟩ := h.attending.exists_move hbusy
    exact ⟨_, .move move w hmove⟩
  · obtain ⟨hphase, hqueue⟩ := Classical.not_imp.mp hbusy
    rw [ne_eq, Classical.not_not] at hqueue
    by_cases hwaits : d.waits = []
    · exact h.progress_queued hphase hqueue hwaits (hk.resolve_left (by simp [hwaits]))
    · exact h.progress_waits hqueue hwaits

/-- A request that is not given up gets a summary, as long as what goes on keeps the worker from
panics. -/
theorem Attended.inevitable {Kept : SummaryDesk → Prop}
    (hattended : ∀ d, Kept d → d.Attended ∧ d.worker.Safe)
    (hgoes : ∀ d d', Kept d → d.Progress d' → Kept d') (h : Kept d) (hasked : k < d.asked)
    (hopen : k ∉ d.givenUp) : d.Inevitable fun d => Kept d ∧ ∃ a, (k, .ok a) ∈ d.answers := by
  -- The measure is what is left to be done.
  induction hn : d.remaining using Nat.strongRecOn generalizing d with
  | _ n ih =>
    obtain ⟨hattends, hsafe⟩ := hattended d h
    have hstays (hk : k ∈ d.waits ∨ k ∈ d.queued) :
        d.Inevitable fun d => Kept d ∧ ∃ a, (k, .ok a) ∈ d.answers := by
      refine .goesOn (hattends.exists_progress hk) fun d' hprogress => ?_
      have hlt := hattends.remaining_lt hsafe hprogress
      obtain ⟨hasked', hgivenUp⟩ := hprogress.same
      exact ih d'.remaining (hn ▸ hlt) (hgoes d d' h hprogress) (hasked' ▸ hasked)
        (hgivenUp ▸ hopen) rfl
    rcases hattends.settled k hasked with hk | hk | hk | hk
    · exact hstays (.inl hk)
    · exact hstays (.inr hk)
    · exact absurd hk hopen
    · exact .holds ⟨h, hk⟩

end SummaryDesk

end ProcessorHost
