import ProcessorHost.Proofs.Timing.Attending
import ProcessorHost.Proofs.Timing.Drained

/-!
# What a collector replies

Whatever else happens to a collector, each reply is the aggregate of the samples that its queue
accepted before it accepted the request. A worker that is over has closed its queue.
-/

namespace ProcessorHost

variable {E L : Type}

namespace WorkerHistory

variable {h h' : WorkerHistory Ledger TimingTask}

/-- Each reply is the aggregate of the samples that were accepted before the request. -/
def Replied (h : WorkerHistory Ledger TimingTask) : Prop :=
  ∀ reply ∈ h.worker.state.replies, ∃ before, before ++ [.summary reply.1] <+: h.accepted ∧
    TimingAggregate.ofSamples (TimingTask.samples before) = .ok reply.2

lemma Replied.of_same (hreplied : h.Replied)
    (hreplies : h'.worker.state.replies = h.worker.state.replies)
    (haccepted : h.accepted <+: h'.accepted) : h'.Replied := by
  intro reply hreply
  rw [hreplies] at hreply
  obtain ⟨before, hbefore, hfold⟩ := hreplied reply hreply
  exact ⟨before, hbefore.trans haccepted, hfold⟩

lemma Replied.answer (hreplied : h.Replied) (b : h.Books) (hfolds : h.Folds) {k ends : Nat}
    {stopping : Bool} (hphase : h.worker.phase = .running (.summary k) ends stopping)
    (hreplies : h'.worker.state.replies =
      h.worker.state.replies ++ [(k, h.worker.state.aggregate)])
    (haccepted : h'.accepted = h.accepted) : h'.Replied := by
  have hgoing : h.worker.isOver = false := by
    unfold Worker.isOver
    rw [hphase]
  have hcalm : ∀ deed ∈ h.deeds, deed.isPanic = false :=
    fun deed hdeed => Deed.isPanic_of_not_last (b.going hgoing deed hdeed)
  have hrun := b.account hcalm
  rw [hphase] at hrun
  intro reply hreply
  rw [hreplies] at hreply
  rw [haccepted]
  rcases List.mem_append.mp hreply with hreply | hreply
  · exact hreplied reply hreply
  · obtain rfl := List.mem_singleton.mp hreply
    refine ⟨Deed.tasks h.deeds, ⟨h.worker.queue, ?_⟩, hfolds hcalm⟩
    rw [← hrun, List.append_assoc]
    rfl

lemma Replied.effect (hreplied : h.Replied) (b : h.Books) (hfolds : h.Folds)
    (heffect : Effect Ledger.runnable h h') : h'.Replied := by
  obtain ⟨w', accepted', deeds'⟩ := h'
  cases heffect with
  | moves hmove accepted deeds =>
    obtain rfl : accepted' = h.accepted := accepted
    cases hmove with
    | runs task ends stopping state hphase hrun =>
      cases task with
      | record sample =>
        exact hreplied.of_same (Ledger.replies_of_record (.inl hrun)) List.prefix_rfl
      | summary k =>
        cases hrun
        exact hreplied.answer b hfolds hphase rfl rfl
    | panics task ends stopping state hphase hrun =>
      cases task with
      | record sample =>
        exact hreplied.of_same (Ledger.replies_of_record (.inr hrun)) List.prefix_rfl
      | summary k => cases hrun
    | ticks nextTick state hphase htick =>
      cases htick
      exact hreplied
    | tickPanics state hphase htick => cases htick
    | windsUp state hphase hqueue hhook =>
      cases hhook
      exact hreplied
    | windUpPanics state hphase hqueue hhook => cases hhook
    | _ => exact hreplied
  | admits hadmits accepted deeds =>
    have hgrows : h.accepted <+: accepted' := ⟨_, accepted.symm⟩
    cases hadmits with
    | same hsame => exact hreplied.of_same (congrArg Ledger.replies hsame.state) hgrows
    | accepts task granted hopen hslots => exact hreplied.of_same rfl hgrows

end WorkerHistory

namespace Worker

variable {σ τ : Type} {r : Runnable σ τ} {w w' : Worker σ τ}

/-- A worker that runs what is left, or is over, has closed its queue. -/
def Sealed (w : Worker σ τ) : Prop := w.phase.isClosing = true → w.closed = true

lemma Sealed.moves {deed : Option (Deed τ)} (h : w.Sealed) (hmove : w.Moves r deed w') :
    w'.Sealed := by
  unfold Sealed at h ⊢
  cases hmove with
  | begins nextTick hphase hperiod => intro hclosing; cases hclosing
  | takes task rest ends waiting granted hphase => intro hclosing; cases hclosing
  | takesLate task rest ends hphase hqueue =>
    rw [hphase] at h
    exact fun _ => h rfl
  | runs task ends stopping state hphase hrun =>
    rw [hphase] at h
    cases stopping with
    | true => exact fun _ => h rfl
    | false => intro hclosing; cases hclosing
  | ticks nextTick state hphase htick => exact h
  | windsUp state hphase hqueue hhook =>
    rw [hphase] at h
    exact fun _ => h rfl
  | _ => exact fun _ => rfl

lemma Sealed.admits {task : Option τ} (h : w.Sealed) (hadmits : w.Admits task w') :
    w'.Sealed := by
  cases hadmits with
  | same hsame =>
    unfold Sealed
    rw [hsame.phase, hsame.closed]
    exact h
  | accepts task granted hopen hslots => exact h

lemma Sealed.closed_of_over (h : w.Sealed) (hover : w.isOver = true) : w.closed = true := by
  apply h
  unfold isOver at hover
  split at hover
  · rename_i hphase
    rw [hphase]
    rfl
  · rename_i hphase
    rw [hphase]
    rfl
  · cases hover

lemma Admits.over {task : Option τ} (hadmits : w.Admits task w') : w'.isOver = w.isOver := by
  cases hadmits with
  | same hsame =>
    unfold isOver
    rw [hsame.phase]
  | accepts task granted hopen hslots => rfl

end Worker

namespace CollectorHistory

variable {h h' : CollectorHistory E L}

lemma replied_effect (hreplied : h.work.Replied) (k : h.Kept) (heffect : Effect h h') :
    h'.work.Replied := by
  cases heffect with
  | takes sample work | works work => exact hreplied.effect k.books k.folds work
  | drops sample reason work => exact work ▸ hreplied
  | reports log work => exact work ▸ hreplied

lemma replied_after (hreplied : h.work.Replied) (k : h.Kept) (steps : List CollectorStep) :
    (h.after steps).work.Replied := by
  induction steps generalizing h with
  | nil => exact hreplied
  | cons step rest ih =>
    have heffect := next_effect h step
    exact ih (replied_effect hreplied k heffect) (k.effect heffect)

lemma sealed_effect (hsealed : h.collector.worker.Sealed) (heffect : Effect h h') :
    h'.collector.worker.Sealed := by
  have hwork (work : WorkerHistory.Effect Ledger.runnable h.work h'.work) :
      h'.collector.worker.Sealed := by
    cases work with
    | moves hmove accepted deeds => exact hsealed.moves hmove
    | admits hadmits accepted deeds => exact hsealed.admits hadmits
  cases heffect with
  | takes sample work | works work => exact hwork work
  | drops sample reason work =>
    have hworker : h'.collector.worker = h.collector.worker := congrArg (·.worker) work
    rwa [hworker]
  | reports log work =>
    have hworker : h'.collector.worker = _ := congrArg (·.worker) work
    rw [hworker]
    exact hsealed

lemma sealed_after (hsealed : h.collector.worker.Sealed) (steps : List CollectorStep) :
    (h.after steps).collector.worker.Sealed := by
  induction steps generalizing h with
  | nil => exact hsealed
  | cons step rest ih => exact ih (sealed_effect hsealed (next_effect h step))

lemma over_next (hover : h.collector.worker.isOver = true) (step : CollectorStep) :
    (h.next step).collector.worker.isOver = true := by
  have hwork (work : WorkerHistory.Effect Ledger.runnable h.work (h.next step).work) :
      (h.next step).collector.worker.isOver = true := by
    cases work with
    | moves hmove accepted deeds =>
      have hgoing : h.collector.worker.isOver = false := hmove.not_over
      rw [hgoing] at hover
      cases hover
    | admits hadmits accepted deeds => exact hadmits.over.trans hover
  cases next_effect h step with
  | takes sample work | works work => exact hwork work
  | drops sample reason work => exact (congrArg (·.worker.isOver) work).trans hover
  | reports log work => exact (congrArg (·.worker.isOver) work).trans hover

/-- What holds of a collector whatever is done to it, and whatever its configuration is. -/
structure Faithful (h : CollectorHistory E L) : Prop where
  replied : h.work.Replied
  sealed : h.collector.worker.Sealed

lemma Faithful.of_stillborn (hborn : h.collector.worker.Stillborn)
    (hsealed : h.collector.worker.Sealed) : h.Faithful := by
  refine ⟨fun reply hreply => ?_, hsealed⟩
  have hnone : h.work.worker.state.replies = [] := hborn.replies
  rw [hnone] at hreply
  cases hreply

variable {config : TimingConfig} {c : Collector} {record : LogRecord}

lemma start_worker (hstart : Collector.start config = .ok (c, record)) :
    c = ⟨⟨config.queueCapacity, config.reportInterval.map (·.nanos), .empty, .created, [], [], [],
      false, false, 0⟩, 0, true⟩ ∧ 0 < config.queueCapacity := by
  unfold Collector.start at hstart
  split at hstart
  · cases hstart
  · rename_i worker hworker
    cases hstart
    refine ⟨by rw [WorkerHistory.start_eq hworker], Nat.pos_of_ne_zero fun hzero => ?_⟩
    unfold Worker.start at hworker
    rw [if_pos hzero] at hworker
    cases hworker

lemma Faithful.of_start (hstart : Collector.start config = .ok (c, record)) :
    (alone c).Faithful := by
  obtain ⟨rfl, -⟩ := start_worker hstart
  constructor
  · intro reply hreply
    cases hreply
  · intro hclosing
    cases hclosing

theorem faithful_after (hstart : Collector.start config = .ok (c, record))
    (steps : List CollectorStep) : ((alone c).after steps).Faithful := by
  have hbegin := Faithful.of_start hstart
  have hsealed := sealed_after hbegin.sealed steps
  by_cases hinterval : config.reportInterval.map (·.nanos) = some 0
  · -- The worker breaks down when it begins, and replies to nobody.
    exact .of_stillborn (stillborn_after (stillborn_alone hstart hinterval) steps) hsealed
  · exact ⟨replied_after hbegin.replied (kept_alone hstart hinterval) steps, hsealed⟩

end CollectorHistory

end ProcessorHost
