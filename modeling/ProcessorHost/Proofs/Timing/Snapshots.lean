import ProcessorHost.Proofs.Timing.TimingDesk

/-!
# Summaries are snapshots

In every order in which samples are submitted, summaries are asked for, the worker moves and the
collector is shut down, a summary that is returned is the aggregate of the samples that were
accepted before its request was. So one that was asked for after another had been returned has
everything the other has. Once the shutdown has returned there are no more summaries.
-/

namespace ProcessorHost

open TimingEvent

namespace Collector

lemma ask_cases (c : Collector) (k : Nat) :
    ((c.worker.submit k (.summary k)).2 = .accepted ∧ (c.ask k).2 = .ok .queued ∧
      c.worker.closed = false) ∨
    ((c.worker.submit k (.summary k)).2 = .waits ∧ (c.ask k).2 = .ok .waiting ∧
      c.worker.closed = false) ∨
    ((c.worker.submit k (.summary k)).2 = .closed ∧ (c.ask k).2 = .error .shutDown ∧
      c.worker.closed = true) := by
  unfold ask Worker.submit
  cases hclosed : c.worker.closed with
  | true => exact .inr (.inr ⟨rfl, rfl, rfl⟩)
  | false =>
    rw [if_neg Bool.false_ne_true]
    split
    · exact .inr (.inl ⟨rfl, rfl, rfl⟩)
    · exact .inl ⟨rfl, rfl, rfl⟩

lemma resume_cases (c : Collector) (k : Nat) :
    ((c.worker.resume k (.summary k)).2 = .accepted ∧
      (c.resume k .waiting).2 = (c.resume k .waiting).1.reply k ∧ c.worker.closed = false) ∨
    ((c.worker.resume k (.summary k)).2 = .waits ∧
      (c.resume k .waiting).2 = .pending .waiting) ∨
    ((c.worker.resume k (.summary k)).2 = .closed ∧
      (c.resume k .waiting).2 = .done (.error .shutDown)) := by
  unfold resume Worker.resume
  cases hclosed : c.worker.closed with
  | true => exact .inr (.inr ⟨rfl, rfl⟩)
  | false =>
    rw [if_neg Bool.false_ne_true]
    split
    · exact .inl ⟨rfl, rfl, rfl⟩
    · exact .inr (.inl ⟨rfl, rfl⟩)

lemma reply_ne_waiting (c : Collector) (k : Nat) : c.reply k ≠ .pending .waiting := by
  unfold reply
  split
  · exact nofun
  · split
    · exact nofun
    · exact nofun

end Collector

namespace SummaryDesk

variable {d d' : SummaryDesk} {k : Nat}

/-- What is seen when a request gets as far as it can. -/
def answered (k : Nat) : Collector.SummaryProgress → List TimingEvent
  | .pending _ => []
  | .done result => [.returned k result]

lemma seen_of_enter {step : DeskStep} {progress : Collector.SummaryProgress}
    (hnext : d.next step = d'.enter k progress) (hanswers : d'.answers = d.answers) :
    d.seen step = (if step = .ask then [.called d.asked] else []) ++
      (d.admitted? step).toList.map .admitted ++ answered k progress := by
  unfold seen
  rw [hnext, answers_enter, hanswers, List.drop_left]
  match progress with
  | .pending request => rfl
  | .done result => rfl

/-- The desk with a request made, before it is noted what becomes of it. -/
def making (d : SummaryDesk) : SummaryDesk :=
  { d with collector := (d.collector.ask d.asked).1, asked := d.asked + 1 }

/-- The desk with a request looked after that waited for room, before it is noted what becomes of
it. -/
def looking (d : SummaryDesk) (k : Nat) : SummaryDesk :=
  { d with collector := (d.collector.resume k .waiting).1 }.leave k

/-- What becomes of a new request. -/
inductive Made (d : SummaryDesk) : Prop
  | admitted (hopen : d.collector.worker.closed = false)
      (passes : d.collector.Passes [.summary d.asked] d.making.collector)
      (next : d.next .ask = d.making.enter d.asked (.pending .queued))
      (seen : d.seen .ask = [.called d.asked, .admitted d.asked])
  | waits (hopen : d.collector.worker.closed = false)
      (passes : d.collector.Passes [] d.making.collector)
      (next : d.next .ask = d.making.enter d.asked (.pending .waiting))
      (seen : d.seen .ask = [.called d.asked])
  | refused (hclosed : d.collector.worker.closed = true)
      (passes : d.collector.Passes [] d.making.collector)
      (next : d.next .ask = d.making.enter d.asked (.done (.error .shutDown)))
      (seen : d.seen .ask = [.called d.asked, .returned d.asked (.error .shutDown)])

lemma next_ask_ok {request : Collector.SummaryRequest}
    (hask : (d.collector.ask d.asked).2 = .ok request) :
    d.next .ask = d.making.enter d.asked (.pending request) := by
  unfold next
  dsimp only
  rw [hask]
  rfl

lemma next_ask_error {e : SummaryError} (hask : (d.collector.ask d.asked).2 = .error e) :
    d.next .ask = d.making.enter d.asked (.done (.error e)) := by
  unfold next
  dsimp only
  rw [hask]
  rfl

lemma made (d : SummaryDesk) : d.Made := by
  have hpasses := d.collector.passes_ask d.asked
  rcases d.collector.ask_cases d.asked with ⟨hqueue, hask, hopen⟩ | ⟨hqueue, hask, hopen⟩ |
    ⟨hqueue, hask, hclosed⟩
  · have hnext := next_ask_ok hask
    have hseen := seen_of_enter hnext rfl
    unfold admitted? worker at hseen
    rw [hqueue] at hpasses hseen
    exact .admitted hopen hpasses hnext hseen
  · have hnext := next_ask_ok hask
    have hseen := seen_of_enter hnext rfl
    unfold admitted? worker at hseen
    rw [hqueue] at hpasses hseen
    exact .waits hopen hpasses hnext hseen
  · have hnext := next_ask_error hask
    have hseen := seen_of_enter hnext rfl
    unfold admitted? worker at hseen
    rw [hqueue] at hpasses hseen
    exact .refused hclosed hpasses hnext hseen

/-- What becomes of a request that waits for room when it is looked after. -/
inductive Looked (d : SummaryDesk) (k : Nat) : Prop
  | admitted (hopen : d.collector.worker.closed = false)
      (passes : d.collector.Passes [.summary k] (d.looking k).collector)
      (next : d.next (.look k) = (d.looking k).enter k ((d.looking k).collector.reply k))
      (seen : d.seen (.look k) =
        [.admitted k] ++ answered k ((d.looking k).collector.reply k))
  | waits (passes : d.collector.Passes [] (d.looking k).collector)
      (next : d.next (.look k) = (d.looking k).enter k (.pending .waiting))
      (seen : d.seen (.look k) = [])
  | refused (passes : d.collector.Passes [] (d.looking k).collector)
      (next : d.next (.look k) = (d.looking k).enter k (.done (.error .shutDown)))
      (seen : d.seen (.look k) = [.returned k (.error .shutDown)])

lemma looked (hstanding : d.standing? k = some .waiting) : d.Looked k := by
  have hpasses := d.collector.passes_resume k
  have hnext : d.next (.look k) = (d.looking k).enter k (d.collector.resume k .waiting).2 :=
    look_eq hstanding
  have hseen := seen_of_enter hnext rfl
  unfold admitted? worker at hseen
  simp only [hstanding, true_and] at hseen
  rcases d.collector.resume_cases k with ⟨hqueue, hresume, hopen⟩ | ⟨hqueue, hresume⟩ |
    ⟨hqueue, hresume⟩
  · rw [hqueue] at hpasses hseen
    rw [hresume] at hnext hseen
    exact .admitted hopen hpasses hnext hseen
  · rw [hqueue] at hpasses hseen
    rw [hresume] at hnext hseen
    exact .waits hpasses hnext hseen
  · rw [hqueue] at hpasses hseen
    rw [hresume] at hnext hseen
    exact .refused hpasses hnext hseen

end SummaryDesk

namespace TimingDesk

/-- The desk of a collector and what was seen of it agree. -/
structure Sound (first : Collector) (d : TimingDesk) : Prop where
  passed : first.Passes (tasks d.events) d.collector
  known : ∀ k, .called k ∈ d.events ↔ k < d.desk.asked
  waits : ∀ k ∈ d.desk.waits, k < d.desk.asked ∧ .admitted k ∉ d.events
  nodup : d.desk.waits.Nodup
  stopped : .stopped ∈ d.events → d.collector.worker.isOver = true
  warranted : AllWarranted d.events

variable {first : Collector} {d : TimingDesk} {k : Nat}

lemma Sound.opened (first : Collector) : (opened first).Sound first where
  passed := .refl first
  known k := by simp [TimingDesk.opened, SummaryDesk.opened]
  waits k hk := nomatch hk
  nodup := List.nodup_nil
  stopped h := nomatch h
  warranted := .nil

lemma Sound.quiet (h : d.Sound first) (desk : SummaryDesk)
    (hpasses : d.collector.Passes [] desk.collector)
    (hasked : desk.asked = d.desk.asked) (hwaits : desk.waits.Sublist d.desk.waits) :
    Sound first ⟨desk, d.events⟩ where
  passed := by
    have htrans := h.passed.trans hpasses
    rwa [List.append_nil] at htrans
  known k := by rw [hasked]; exact h.known k
  waits k hk := by rw [hasked]; exact h.waits k (hwaits.subset hk)
  nodup := h.nodup.sublist hwaits
  stopped hstopped := hpasses.over (h.stopped hstopped)
  warranted := h.warranted

/-- Something is seen that is no request. -/
lemma Sound.sees (h : d.Sound first) {desk : SummaryDesk} {event : TimingEvent}
    (hpasses : d.collector.Passes event.task?.toList desk.collector)
    (hasked : desk.asked = d.desk.asked) (hwaits : desk.waits.Sublist d.desk.waits)
    (hcalled : ∀ k, event ≠ .called k) (hadmitted : ∀ k ∈ desk.waits, event ≠ .admitted k)
    (hstopped : event = .stopped → d.collector.worker.isOver = true)
    (hwarranted : Warranted d.events event) : Sound first ⟨desk, d.events ++ [event]⟩ where
  passed := by
    have htask : tasks [event] = event.task?.toList := by
      unfold tasks
      cases hevent : event.task? with
      | none => exact List.filterMap_cons_none hevent
      | some task => exact List.filterMap_cons_some hevent
    rw [tasks_append, htask]
    exact h.passed.trans hpasses
  known k := by
    rw [hasked, ← h.known k, List.mem_append, List.mem_singleton]
    exact ⟨fun hk => hk.resolve_right (hcalled k).symm, .inl⟩
  waits k hk := by
    obtain ⟨hlt, hnot⟩ := h.waits k (hwaits.subset hk)
    rw [hasked, List.mem_append, List.mem_singleton]
    exact ⟨hlt, not_or.mpr ⟨hnot, (hadmitted k hk).symm⟩⟩
  nodup := h.nodup.sublist hwaits
  stopped hmem := by
    apply hpasses.over
    rcases List.mem_append.mp hmem with hmem | hmem
    · exact h.stopped hmem
    · exact hstopped (List.mem_singleton.mp hmem).symm
  warranted := h.warranted.append hwarranted

lemma Sound.called (h : d.Sound first) (desk : SummaryDesk)
    (hcollector : desk.collector = d.collector) (hasked : desk.asked = d.desk.asked + 1)
    (hwaits : desk.waits = d.desk.waits) :
    Sound first ⟨desk, d.events ++ [.called d.desk.asked]⟩ where
  passed := by
    change first.Passes (tasks (d.events ++ [.called d.desk.asked])) desk.collector
    rw [tasks_append, show tasks [.called d.desk.asked] = [] from rfl, List.append_nil, hcollector]
    exact h.passed
  known k := by
    rw [hasked, List.mem_append, h.known k, List.mem_singleton, called.injEq]
    omega
  waits k hk := by
    obtain ⟨hlt, hnot⟩ := h.waits k (hwaits ▸ hk)
    rw [hasked, List.mem_append, List.mem_singleton]
    exact ⟨Nat.lt_succ_of_lt hlt, not_or.mpr ⟨hnot, nofun⟩⟩
  nodup := hwaits ▸ h.nodup
  stopped hmem := by
    change desk.collector.worker.isOver = true
    rw [hcollector]
    exact h.stopped ((List.mem_append.mp hmem).resolve_right nofun)
  warranted := h.warranted.append fun hmem => Nat.lt_irrefl _ ((h.known _).mp hmem)

lemma Sound.waiting (h : d.Sound first) (desk : SummaryDesk)
    (hpasses : d.collector.Passes [] desk.collector)
    (hasked : desk.asked = d.desk.asked) (hwaits : desk.waits = d.desk.waits ++ [k])
    (hlt : k < d.desk.asked) (hnew : k ∉ d.desk.waits) (hnot : .admitted k ∉ d.events) :
    Sound first ⟨desk, d.events⟩ where
  passed := by
    have htrans := h.passed.trans hpasses
    rwa [List.append_nil] at htrans
  known j := by rw [hasked]; exact h.known j
  waits j hj := by
    rw [hasked]
    rw [hwaits] at hj
    rcases List.mem_append.mp hj with hj | hj
    · exact h.waits j hj
    · obtain rfl := List.mem_singleton.mp hj
      exact ⟨hlt, hnot⟩
  nodup := by
    rw [hwaits]
    exact List.nodup_append.mpr ⟨h.nodup, List.nodup_singleton _, fun j hj i hi => by
      rw [List.mem_singleton.mp hi]
      rintro rfl
      exact hnew hj⟩
  stopped hstopped := hpasses.over (h.stopped hstopped)
  warranted := h.warranted

variable {config : TimingConfig} {record : LogRecord}

lemma Sound.faithful (h : d.Sound first) (hstart : Collector.start config = .ok (first, record)) :
    ∃ history : CollectorHistory Unit Unit, history.Faithful ∧ history.collector = d.collector ∧
      history.accepted = tasks d.events := by
  obtain ⟨steps, hsteps⟩ := h.passed
  obtain ⟨hcollector, haccepted⟩ := hsteps (.alone first) rfl
  exact ⟨_, CollectorHistory.faithful_after hstart steps, hcollector, haccepted⟩

lemma Sound.closed (h : d.Sound first) (hstart : Collector.start config = .ok (first, record))
    (hstopped : .stopped ∈ d.events) : d.collector.worker.closed = true := by
  obtain ⟨history, hfaithful, hcollector, -⟩ := h.faithful hstart
  have hover := h.stopped hstopped
  rw [← hcollector] at hover ⊢
  exact hfaithful.sealed.closed_of_over hover

lemma Sound.warrants_reply (h : d.Sound first)
    (hstart : Collector.start config = .ok (first, record)) {a : TimingAggregate}
    (hreply : (k, a) ∈ d.collector.worker.state.replies) :
    Warranted d.events (.returned k (.ok a)) := by
  obtain ⟨history, hfaithful, hcollector, haccepted⟩ := h.faithful hstart
  rw [← hcollector] at hreply
  obtain ⟨before, hbefore, hfold⟩ := hfaithful.replied (k, a) hreply
  have hinitial : before ++ [.summary k] <+: tasks d.events := haccepted ▸ hbefore
  obtain ⟨early, rest, hevents, hearly⟩ := exists_admitted hinitial
  refine ⟨early, rest, hevents, ?_⟩
  rw [← samples_tasks, hearly]
  exact hfold

lemma Sound.lt_of_admitted (h : d.Sound first) (hmem : .admitted k ∈ d.events) :
    k < d.desk.asked := by
  obtain ⟨past, later, heq⟩ := List.append_of_mem hmem
  obtain ⟨hcalled, -⟩ := h.warranted past (.admitted k) later heq
  rw [← h.known k, heq]
  exact List.mem_append_left _ hcalled

lemma Sound.enter (h : d.Sound first) (progress : Collector.SummaryProgress)
    (hwaiting : progress = .pending .waiting →
      k < d.desk.asked ∧ k ∉ d.desk.waits ∧ .admitted k ∉ d.events)
    (hdone : ∀ result, progress = .done result → Warranted d.events (.returned k result)) :
    Sound first ⟨d.desk.enter k progress, d.events ++ SummaryDesk.answered k progress⟩ := by
  match progress with
  | .pending .waiting =>
    obtain ⟨hlt, hnew, hnot⟩ := hwaiting rfl
    have hwaits := h.waiting (d.desk.enter k (.pending .waiting)) (.refl _) rfl rfl hlt
      hnew hnot
    rwa [SummaryDesk.answered, List.append_nil]
  | .pending .queued =>
    have hquiet := h.quiet (d.desk.enter k (.pending .queued)) (.refl _) rfl (.refl _)
    rwa [SummaryDesk.answered, List.append_nil]
  | .done result =>
    exact h.sees (.refl _) rfl (.refl _) nofun nofun nofun (hdone result rfl)

lemma Sound.enter_reply (h : d.Sound first)
    (hstart : Collector.start config = .ok (first, record)) (k : Nat) :
    Sound first ⟨d.desk.enter k (d.collector.reply k),
      d.events ++ SummaryDesk.answered k (d.collector.reply k)⟩ := by
  refine h.enter _ (fun hreply => absurd hreply (Collector.reply_ne_waiting _ _)) ?_
  intro result hreply
  match result with
  | .ok a => exact h.warrants_reply hstart (Collector.mem_replies_of_reply hreply)
  | .error e => trivial

/-- A request is admitted for which nothing was admitted before. -/
lemma Sound.admits (h : d.Sound first) (hstart : Collector.start config = .ok (first, record))
    (desk : SummaryDesk)
    (hpasses : d.collector.Passes [.summary k] desk.collector)
    (hasked : desk.asked = d.desk.asked) (hwaits : desk.waits.Sublist d.desk.waits)
    (hleft : k ∉ desk.waits) (hlt : k < d.desk.asked) (hnot : .admitted k ∉ d.events)
    (hopen : d.collector.worker.closed = false) :
    Sound first ⟨desk, d.events ++ [.admitted k]⟩ := by
  refine h.sees hpasses hasked hwaits nofun ?_ nofun ⟨(h.known k).mpr hlt, hnot, ?_⟩
  · rintro j hj hsame
    obtain rfl := TimingEvent.admitted.inj hsame
    exact hleft hj
  · intro hstopped
    rw [h.closed hstart hstopped] at hopen
    cases hopen

lemma Sound.ask (h : d.Sound first) (hstart : Collector.start config = .ok (first, record)) :
    (d.next (.serve .ask)).Sound first := by
  have hnew : d.desk.asked ∉ d.desk.waits := fun hmem => Nat.lt_irrefl _ (h.waits _ hmem).1
  have hcalled := h.called { d.desk with asked := d.desk.asked + 1 } rfl rfl rfl
  have hnot : .admitted d.desk.asked ∉ d.events ++ [.called d.desk.asked] := fun hmem =>
    Nat.lt_irrefl _ (h.lt_of_admitted ((List.mem_append.mp hmem).resolve_right nofun))
  unfold TimingDesk.next
  dsimp only
  cases d.desk.made with
  | admitted hopen hpasses hnext hseen =>
    have hadmits := hcalled.admits hstart d.desk.making hpasses rfl (.refl _) hnew
      (Nat.lt_succ_self _) hnot hopen
    rw [hnext, hseen]
    simpa [SummaryDesk.answered] using hadmits.enter (.pending .queued) nofun nofun
  | waits hopen hpasses hnext hseen =>
    have hquiet := hcalled.quiet d.desk.making hpasses rfl (.refl _)
    rw [hnext, hseen]
    simpa [SummaryDesk.answered] using
      hquiet.enter (.pending .waiting) (fun _ => ⟨Nat.lt_succ_self _, hnew, hnot⟩) nofun
  | refused hclosed hpasses hnext hseen =>
    have hquiet := hcalled.quiet d.desk.making hpasses rfl (.refl _)
    rw [hnext, hseen]
    simpa [SummaryDesk.answered] using
      hquiet.enter (k := d.desk.asked) (.done (.error .shutDown)) nofun
        (fun result hresult => by cases hresult; trivial)

lemma Sound.look_waiting (h : d.Sound first)
    (hstart : Collector.start config = .ok (first, record)) (hk : k ∈ d.desk.waits)
    (hstanding : d.desk.standing? k = some .waiting) :
    (d.next (.serve (.look k))).Sound first := by
  obtain ⟨hlt, hnot⟩ := h.waits k hk
  have hwaits : (d.desk.looking k).waits.Sublist d.desk.waits := List.erase_sublist
  have hleft : k ∉ (d.desk.looking k).waits := h.nodup.not_mem_erase
  unfold TimingDesk.next
  dsimp only
  cases d.desk.looked hstanding with
  | admitted hopen hpasses hnext hseen =>
    have hadmits := h.admits hstart _ hpasses rfl hwaits hleft hlt hnot hopen
    rw [hnext, hseen, ← List.append_assoc]
    exact hadmits.enter_reply hstart k
  | waits hpasses hnext hseen =>
    have hquiet := h.quiet _ hpasses rfl hwaits
    rw [hnext, hseen]
    exact hquiet.enter (.pending .waiting) (fun _ => ⟨hlt, hleft, hnot⟩) nofun
  | refused hpasses hnext hseen =>
    have hquiet := h.quiet _ hpasses rfl hwaits
    rw [hnext, hseen]
    exact hquiet.enter (.done (.error .shutDown)) nofun
      (fun result hresult => by cases hresult; trivial)

lemma Sound.look_queued (h : d.Sound first)
    (hstart : Collector.start config = .ok (first, record))
    (hstanding : d.desk.standing? k = some .queued) :
    (d.next (.serve (.look k))).Sound first := by
  have hnext : d.desk.next (.look k) = (d.desk.leave k).enter k (d.collector.reply k) :=
    SummaryDesk.look_eq hstanding
  have hseen := SummaryDesk.seen_of_enter hnext rfl
  have hadmitted : d.desk.admitted? (.look k) = none := if_neg fun hwaiting => by
    rw [hstanding] at hwaiting
    cases hwaiting.1
  have hquiet := h.quiet (d.desk.leave k) (.refl _) rfl List.erase_sublist
  unfold TimingDesk.next
  dsimp only
  rw [hseen, hnext, hadmitted, if_neg nofun]
  exact hquiet.enter_reply hstart k

lemma Sound.unseen (h : d.Sound first) {desk : SummaryDesk} {step : DeskStep}
    (hnext : d.desk.next step = desk)
    (hask : step ≠ .ask) (hpasses : d.collector.Passes [] desk.collector)
    (hasked : desk.asked = d.desk.asked) (hwaits : desk.waits.Sublist d.desk.waits)
    (hadmitted : d.desk.admitted? step = none) (hanswers : desk.answers = d.desk.answers) :
    (d.next (.serve step)).Sound first := by
  have hseen : d.desk.seen step = [] := by
    unfold SummaryDesk.seen
    rw [if_neg hask, hadmitted, hnext, hanswers, List.drop_length]
    rfl
  unfold TimingDesk.next
  dsimp only
  rw [hseen, List.append_nil, hnext]
  exact h.quiet _ hpasses hasked hwaits

lemma Sound.look (h : d.Sound first) (hstart : Collector.start config = .ok (first, record))
    (k : Nat) : (d.next (.serve (.look k))).Sound first := by
  rcases d.desk.standing?_cases k with ⟨hk, hstanding⟩ | ⟨-, -, hstanding⟩ | hstanding
  · exact h.look_waiting hstart hk hstanding
  · exact h.look_queued hstart hstanding
  · have hadmitted : d.desk.admitted? (.look k) = none := if_neg fun hwaiting => by
      rw [hstanding] at hwaiting
      cases hwaiting.1
    exact h.unseen (SummaryDesk.look_none hstanding) nofun (.refl _) rfl (.refl _) hadmitted rfl

lemma Sound.giveUp (h : d.Sound first) (k : Nat) : (d.next (.serve (.giveUp k))).Sound first := by
  rcases d.desk.standing?_cases k with ⟨-, hstanding⟩ | ⟨-, -, hstanding⟩ | hstanding
  · exact h.unseen (SummaryDesk.giveUp_waiting hstanding) nofun (d.collector.passes_abandon k) rfl
      List.erase_sublist rfl rfl
  · exact h.unseen (SummaryDesk.giveUp_queued hstanding) nofun (.refl _) rfl List.erase_sublist
      rfl rfl
  · exact h.unseen (SummaryDesk.giveUp_none hstanding) nofun (.refl _) rfl (.refl _) rfl rfl

lemma Sound.move (h : d.Sound first) (move : WorkerMove) :
    (d.next (.serve (.move move))).Sound first := by
  cases hmove : d.desk.worker.move? Ledger.runnable d.desk.now move with
  | none =>
    exact h.unseen (SummaryDesk.next_move_none hmove) nofun (.refl _) rfl (.refl _) rfl rfl
  | some w =>
    exact h.unseen (SummaryDesk.next_move hmove) nofun (Collector.passes_move hmove) rfl (.refl _)
      rfl rfl

lemma Sound.submit (h : d.Sound first) (sample : TimingSample) :
    (d.next (.submit sample)).Sound first := by
  have hpasses := d.collector.passes_submit sample
  have hnext : d.next (.submit sample) =
      ⟨{ d.desk with collector := (d.collector.submit sample).1 },
        d.events ++ [.submitted sample (d.collector.submit sample).2]⟩ := rfl
  rw [hnext]
  refine h.sees ?_ rfl (.refl _) nofun nofun nofun trivial
  cases hreason : (d.collector.submit sample).2 with
  | none =>
    rw [hreason] at hpasses
    exact hpasses
  | some reason =>
    rw [hreason] at hpasses
    exact hpasses

theorem Sound.next (h : d.Sound first) (hstart : Collector.start config = .ok (first, record))
    (step : TimingStep) : (d.next step).Sound first := by
  cases step with
  | submit sample => exact h.submit sample
  | serve step =>
    cases step with
    | ask => exact h.ask hstart
    | look k => exact h.look hstart k
    | giveUp k => exact h.giveUp k
    | move move => exact h.move move
    | wait time => exact h.unseen rfl nofun (.refl _) rfl (.refl _) rfl rfl
    | report => exact h.unseen rfl nofun d.collector.passes_report rfl (.refl _) rfl rfl
  | shutdown => exact h.quiet _ d.collector.passes_shutdown rfl (.refl _)
  | shutdownReturns =>
    unfold TimingDesk.next
    dsimp only
    split
    · rename_i hover
      exact h.sees (.refl _) rfl (.refl _) nofun nofun (fun _ => hover.2) trivial
    · exact h

theorem Sound.after (h : d.Sound first) (hstart : Collector.start config = .ok (first, record))
    (steps : List TimingStep) : (d.after steps).Sound first := by
  induction steps generalizing d with
  | nil => exact h
  | cons step rest ih => exact ih (h.next hstart step)

end TimingDesk

/-- Of two aggregates, one of more samples has everything the other has. -/
lemma TimingAggregate.Tells.grows {a b : TimingAggregate} {samples samples' : List TimingSample}
    (ha : a.Tells samples) (hb : b.Tells samples') (hinitial : samples <+: samples')
    {key : TimingKey} {stats : TimingStats} (hget : a.get? key = some stats) :
    ∃ stats', b.get? key = some stats' ∧ stats.count ≤ stats'.count ∧
      stats.total.nanos ≤ stats'.total.nanos := by
  obtain ⟨more, rfl⟩ := hinitial
  have hcount := ha.count key stats hget
  have htotal := ha.total key stats hget
  have hsome : TimingSample.under key samples ≠ [] := by
    intro hnil
    rw [(ha.absent key).mpr hnil] at hget
    cases hget
  cases hget' : b.get? key with
  | none =>
    have hnil := (hb.absent key).mp hget'
    rw [TimingSample.under_append] at hnil
    exact absurd (List.append_eq_nil_iff.mp hnil).1 hsome
  | some stats' =>
    have hcount' := hb.count key stats' hget'
    have htotal' := hb.total key stats' hget'
    rw [TimingSample.under_append, List.length_append] at hcount'
    rw [TimingSample.under_append, TimingSample.nanos_append] at htotal'
    exact ⟨stats', rfl, by omega, by omega⟩

namespace TimingEvent

variable {events past later : List TimingEvent} {event : TimingEvent} {k : Nat}

lemma AllWarranted.initial (h : AllWarranted (past ++ later)) : AllWarranted past := by
  intro first event rest heq
  exact h first event (rest ++ later) (by rw [heq, List.append_assoc, List.cons_append])

lemma AllWarranted.called_first {first during before after : List TimingEvent}
    (h : AllWarranted (first ++ .called k :: during))
    (heq : first ++ .called k :: during = before ++ .admitted k :: after) :
    ∃ waited, before = first ++ .called k :: waited ∧ during = waited ++ .admitted k :: after := by
  rcases List.append_eq_append_iff.mp heq with ⟨between, hbefore, hduring⟩ |
    ⟨between, hfirst, hafter⟩
  · match between, hduring with
    | event :: waited, hduring =>
      obtain ⟨rfl, hwaited⟩ := List.cons_eq_cons.mp hduring
      exact ⟨waited, hbefore, hwaited⟩
  · match between, hafter with
    | event :: waited, hafter =>
      -- It would have been called before it was admitted, and so twice.
      obtain ⟨rfl, -⟩ := List.cons_eq_cons.mp hafter
      have hcalled : .called k ∈ before := (h before (.admitted k) after heq).1
      have hfresh : .called k ∉ first := h first (.called k) during rfl
      rw [hfirst] at hfresh
      exact absurd (List.mem_append_left _ hcalled) hfresh

/-- What was called after the shutdown had returned is never admitted. -/
lemma AllWarranted.not_admitted {between : List TimingEvent} (h : AllWarranted events)
    (hevents : events = past ++ .stopped :: between ++ .called k :: later) :
    .admitted k ∉ events := by
  intro hmem
  obtain ⟨before, after, heq⟩ := List.append_of_mem hmem
  obtain ⟨hcalled, -, hstopped⟩ := h before (.admitted k) after heq
  have hfresh := h (past ++ .stopped :: between) (.called k) later hevents
  have hbefore : before <+: events := ⟨_, heq.symm⟩
  have hpast : past ++ .stopped :: between <+: events := ⟨_, hevents.symm⟩
  rcases List.prefix_or_prefix_of_prefix hbefore hpast with hinitial | hinitial
  · exact hfresh (hinitial.subset hcalled)
  · exact hstopped (hinitial.subset (List.mem_append_right _ List.mem_cons_self))

end TimingEvent

namespace TimingDesk

/-- What those can rely on who ask for summaries. -/
structure Snapshots (d : TimingDesk) : Prop where
  /-- A request is made once, and admitted at most once, after it was made. -/
  once : ∀ past k later,
    (d.events = past ++ .called k :: later → .called k ∉ past) ∧
    (d.events = past ++ .admitted k :: later → .called k ∈ past ∧ .admitted k ∉ past)
  /-- A summary is the aggregate of exactly the samples that were accepted before its request. -/
  exact : ∀ past k a later, d.events = past ++ .returned k (.ok a) :: later →
    ∃ before after, past = before ++ .admitted k :: after ∧
      TimingAggregate.ofSamples (taken before) = .ok a
  /-- So it has all samples that were taken before the call, those of the first that were taken
  during the call, and no others. -/
  spans : ∀ first k during a later,
    d.events = first ++ .called k :: during ++ .returned k (.ok a) :: later →
      ∃ cut, cut <+: taken during ∧
        TimingAggregate.ofSamples (taken first ++ cut) = .ok a
  /-- A summary that was asked for after another had been returned has every key of the other, with
  at least its count and its total. -/
  grows : ∀ past j a between k during b later,
    d.events = past ++ .returned j (.ok a) :: between ++ .called k :: during ++
      .returned k (.ok b) :: later →
    ∀ key stats, a.get? key = some stats → ∃ stats', b.get? key = some stats' ∧
      stats.count ≤ stats'.count ∧ stats.total.nanos ≤ stats'.total.nanos
  /-- When the shutdown has returned, a request is refused at once. -/
  refuses : .stopped ∈ d.events → (d.next (.serve .ask)).events =
    d.events ++ [.called d.desk.asked, .returned d.desk.asked (.error .shutDown)]
  /-- No summary is ever returned for it. -/
  fails : ∀ past between k later, d.events = past ++ .stopped :: between ++ .called k :: later →
    ∀ a, .returned k (.ok a) ∉ d.events

variable {first : Collector} {d : TimingDesk} {config : TimingConfig} {record : LogRecord}

lemma Sound.spans (h : d.Sound first) (early : List TimingEvent)
    {during later : List TimingEvent} {k : Nat} {a : TimingAggregate}
    (hevents : d.events = early ++ .called k :: during ++ .returned k (.ok a) :: later) :
    ∃ cut, cut <+: taken during ∧
      TimingAggregate.ofSamples (taken early ++ cut) = .ok a := by
  obtain ⟨before, after, heq, hfold⟩ := h.warranted _ (.returned k (.ok a)) later hevents
  have hpast : AllWarranted (early ++ .called k :: during) := by
    have hall := h.warranted
    rw [hevents] at hall
    exact hall.initial
  obtain ⟨waited, rfl, rfl⟩ := hpast.called_first heq
  refine ⟨taken waited, ?_, ?_⟩
  · rw [taken_append]
    exact List.prefix_append _ _
  · rw [taken_append] at hfold
    exact hfold

theorem Sound.snapshots (h : d.Sound first)
    (hstart : Collector.start config = .ok (first, record)) : d.Snapshots where
  once past k later :=
    ⟨fun heq => h.warranted past (.called k) later heq, fun heq => by
      obtain ⟨hcalled, hnot, -⟩ := h.warranted past (.admitted k) later heq
      exact ⟨hcalled, hnot⟩⟩
  exact past k a later heq := h.warranted past (.returned k (.ok a)) later heq
  spans early k during a later heq := h.spans early heq
  grows past j a between k during b later heq key stats hget := by
    obtain ⟨cut, -, hlater⟩ := h.spans (past ++ .returned j (.ok a) :: between) heq
    have hearlier : d.events = past ++ .returned j (.ok a) ::
        (between ++ .called k :: during ++ .returned k (.ok b) :: later) := by
      rw [heq]
      simp
    obtain ⟨before, after, hpast, hfold⟩ := h.warranted past _ _ hearlier
    have hinitial : taken before <+: taken (past ++ .returned j (.ok a) :: between) ++ cut := by
      rw [hpast, taken_append, taken_append, List.append_assoc, List.append_assoc]
      exact List.prefix_append _ _
    exact (TimingAggregate.tells_ofSamples hfold).grows (TimingAggregate.tells_ofSamples hlater)
      hinitial hget
  refuses hstopped := by
    have hclosed : d.desk.collector.worker.closed = true := h.closed hstart hstopped
    change d.events ++ d.desk.seen .ask = _
    cases d.desk.made with
    | admitted hopen hpasses hnext hseen | waits hopen hpasses hnext hseen =>
      rw [hopen] at hclosed
      cases hclosed
    | refused hclosed hpasses hnext hseen => rw [hseen]
  fails past between k later heq a hmem := by
    obtain ⟨early, rest, hevents⟩ := List.append_of_mem hmem
    obtain ⟨before, after, hearly, -⟩ := h.warranted early (.returned k (.ok a)) rest hevents
    refine h.warranted.not_admitted heq ?_
    rw [hevents, hearly]
    simp

/-- In every order of submissions, requests, moves and shutdowns, summaries are snapshots. -/
theorem summaries_are_snapshots (hstart : Collector.start config = .ok (first, record))
    (steps : List TimingStep) : ((TimingDesk.opened first).after steps).Snapshots :=
  ((Sound.opened first).after hstart steps).snapshots hstart

/-- A collector with one slot. -/
def single : Collector := ⟨⟨1, none, .empty, .created, [], [], [], false, false, 0⟩, 0, true⟩

/-- A request waits for the slot that a sample has; the sample that comes meanwhile is dropped. -/
def crowdedSteps : List TimingStep :=
  [.submit default, .serve .ask, .submit default, .serve (.move .setUp), .serve (.move .take),
    .serve (.move .finish), .serve (.look 0), .serve (.move .take), .serve (.move .finish),
    .serve (.look 0), .shutdown, .serve (.move .stop), .serve (.move .windUp), .shutdownReturns,
    .serve .ask]

theorem crowded_snapshots : ((opened single).after crowdedSteps).Snapshots ∧
    ((opened single).after crowdedSteps).events =
      [.submitted default none, .called 0, .submitted default (some .queueFull), .admitted 0,
        .returned 0 (.ok ⟨[(default, ⟨1, default, default, default⟩)]⟩), .stopped, .called 1,
        .returned 1 (.error .shutDown)] := by
  have hstart : Collector.start ⟨1, none⟩ = .ok (single, Collector.startRecord 1) := rfl
  exact ⟨summaries_are_snapshots hstart _, rfl⟩

end TimingDesk

end ProcessorHost
