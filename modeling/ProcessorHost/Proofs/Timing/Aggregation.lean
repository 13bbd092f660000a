import Mathlib.Data.List.Induction
import ProcessorHost.Proofs.Tables
import ProcessorHost.Proofs.Timing.Accounting

/-!
# What an aggregate tells

An aggregate has for each timing key the number and the sum of the samples with that key,
whatever their order was. A record only panics if one of these becomes too large; so the worker of
a collector never panics as long as they fit.
-/

namespace ProcessorHost

namespace TimingSample

/-- The sum of the durations of some samples in nanoseconds. -/
def nanos (samples : List TimingSample) : Nat := (samples.map (·.duration.nanos)).sum

lemma nanos_append (samples samples' : List TimingSample) :
    nanos (samples ++ samples') = nanos samples + nanos samples' := by
  simp [nanos]

/-- The samples with a key. -/
def under (key : TimingKey) (samples : List TimingSample) : List TimingSample :=
  samples.filter fun sample => sample.key = key

lemma under_append (key : TimingKey) (samples samples' : List TimingSample) :
    under key (samples ++ samples') = under key samples ++ under key samples' :=
  List.filter_append ..

lemma under_one (key : TimingKey) (sample : TimingSample) :
    under key [sample] = if sample.key = key then [sample] else [] := by
  unfold under
  by_cases h : sample.key = key
  · simp [h]
  · simp [h]

/-- No number and no sum of the samples with one key is too large. -/
def Fit (samples : List TimingSample) : Prop :=
  ∀ key, (under key samples).length < 0x10000000000000000 ∧
    nanos (under key samples) < 0x10000000000000000 * 1000000000

lemma nanos_le {samples samples' : List TimingSample} (h : samples.Sublist samples') :
    nanos samples ≤ nanos samples' := by
  unfold nanos
  induction h with
  | slnil => exact Nat.le_refl _
  | cons sample h ih =>
    rw [List.map_cons, List.sum_cons]
    omega
  | cons_cons sample h ih =>
    rw [List.map_cons, List.map_cons, List.sum_cons, List.sum_cons]
    omega

lemma Fit.nil : Fit [] := fun _ =>
  ⟨(by decide : 0 < 0x10000000000000000), (by decide : 0 < 0x10000000000000000 * 1000000000)⟩

lemma Fit.sublist {samples samples' : List TimingSample} (h : Fit samples')
    (hsub : samples.Sublist samples') : Fit samples := by
  intro key
  have hkey : (under key samples).Sublist (under key samples') := hsub.filter _
  have hlength := hkey.length_le
  have hsum := nanos_le hkey
  obtain ⟨hcount, htotal⟩ := h key
  exact ⟨by omega, by omega⟩

lemma Fit.of_append {samples samples' : List TimingSample} (h : Fit (samples ++ samples')) :
    Fit samples := h.sublist (List.sublist_append_left _ _)

/-- It is enough that there are not too many samples, and that all of them together are not too
long. -/
lemma Fit.of_total {samples : List TimingSample} (hcount : samples.length < 0x10000000000000000)
    (htotal : nanos samples < 0x10000000000000000 * 1000000000) : Fit samples := fun _ =>
  ⟨Nat.lt_of_le_of_lt (List.length_filter_le _ _) hcount,
    Nat.lt_of_le_of_lt (nanos_le List.filter_sublist) htotal⟩

end TimingSample

namespace TimingKey

instance : Std.Irrefl ((· < ·) : TimingKey → TimingKey → Prop) where
  irrefl k := by
    rintro (h | ⟨-, h⟩)
    · exact String.lt_irrefl _ h
    · exact String.lt_irrefl _ h

instance : IsTrans TimingKey (· < ·) where
  trans a b c := by
    rintro (hab | ⟨heq, hab⟩) (hbc | ⟨heq', hbc⟩)
    · exact .inl (String.lt_trans hab hbc)
    · exact .inl (heq' ▸ hab)
    · exact .inl (heq ▸ hbc)
    · exact .inr ⟨heq.trans heq', String.lt_trans hab hbc⟩

instance : Std.Trichotomous ((· < ·) : TimingKey → TimingKey → Prop) where
  trichotomous := by
    rintro ⟨context, stopwatch⟩ ⟨context', stopwatch'⟩ hab hba
    obtain rfl : context = context' :=
      String.le_antisymm (fun h => hba (.inl h)) fun h => hab (.inl h)
    obtain rfl : stopwatch = stopwatch' :=
      String.le_antisymm (fun h => hba (.inr ⟨rfl, h⟩)) fun h => hab (.inr ⟨rfl, h⟩)
    rfl

end TimingKey

namespace TimingAggregate

/-- The number and the sum of the samples with each key, and no other key. -/
structure Tells (a : TimingAggregate) (samples : List TimingSample) : Prop where
  increasing : Keyed.Increasing a.entries
  count : ∀ key stats, a.get? key = some stats →
    stats.count = (TimingSample.under key samples).length
  total : ∀ key stats, a.get? key = some stats →
    stats.total.nanos = TimingSample.nanos (TimingSample.under key samples)
  absent : ∀ key, a.get? key = none ↔ TimingSample.under key samples = []

variable {a : TimingAggregate} {samples : List TimingSample}

lemma Tells.getD (h : a.Tells samples) (key : TimingKey) :
    ((a.get? key).getD .empty).count = (TimingSample.under key samples).length ∧
      ((a.get? key).getD .empty).total.nanos =
        TimingSample.nanos (TimingSample.under key samples) := by
  cases hget : a.get? key with
  | some stats => exact ⟨h.count key stats hget, h.total key stats hget⟩
  | none =>
    rw [(h.absent key).mp hget]
    exact ⟨rfl, rfl⟩

lemma Tells.insert (h : a.Tells samples) {sample : TimingSample} {stats : TimingStats}
    (hcount : stats.count = ((a.get? sample.key).getD .empty).count + 1)
    (htotal : stats.total.nanos =
      ((a.get? sample.key).getD .empty).total.nanos + sample.duration.nanos) :
    (⟨Keyed.insert sample.key stats a.entries⟩ : TimingAggregate).Tells (samples ++ [sample]) := by
  have hself : (⟨Keyed.insert sample.key stats a.entries⟩ : TimingAggregate).get? sample.key =
      some stats := Keyed.find?_insert_self _ _ _
  have hother {key : TimingKey} (hne : key ≠ sample.key) :
      (⟨Keyed.insert sample.key stats a.entries⟩ : TimingAggregate).get? key = a.get? key :=
    Keyed.find?_insert_of_ne hne _ _
  have hsame {key : TimingKey} (hne : key ≠ sample.key) :
      TimingSample.under key (samples ++ [sample]) = TimingSample.under key samples := by
    rw [TimingSample.under_append, TimingSample.under_one, if_neg (Ne.symm hne), List.append_nil]
  have hgrows : TimingSample.under sample.key (samples ++ [sample]) =
      TimingSample.under sample.key samples ++ [sample] := by
    rw [TimingSample.under_append, TimingSample.under_one, if_pos rfl]
  obtain ⟨hcount', htotal'⟩ := h.getD sample.key
  refine ⟨h.increasing.insert _ _, fun key other hget => ?_, fun key other hget => ?_,
    fun key => ?_⟩
  · by_cases hkey : key = sample.key
    · subst hkey
      obtain rfl := Option.some.inj (hself.symm.trans hget)
      rw [hgrows, List.length_append, hcount, hcount']
      rfl
    · rw [hsame hkey]
      exact h.count key other (hother hkey ▸ hget)
  · by_cases hkey : key = sample.key
    · subst hkey
      obtain rfl := Option.some.inj (hself.symm.trans hget)
      rw [hgrows, TimingSample.nanos_append, htotal, htotal']
      rfl
    · rw [hsame hkey]
      exact h.total key other (hother hkey ▸ hget)
  · by_cases hkey : key = sample.key
    · subst hkey
      rw [hself, hgrows]
      simp
    · rw [hother hkey, hsame hkey]
      exact h.absent key

lemma stats_record {s after : TimingStats} {d : Span} (h : s.record d = .ok after) :
    after.count = s.count + 1 ∧ after.total.nanos = s.total.nanos + d.nanos := by
  unfold TimingStats.record at h
  dsimp only at h
  split at h
  · split at h
    · rename_i total htotal
      cases h
      exact ⟨rfl, Span.add?_eq_some_iff.mp htotal⟩
    · cases h
  · cases h

lemma exists_stats_record {s : TimingStats} {d : Span}
    (hcount : s.count + 1 < 0x10000000000000000)
    (htotal : s.total.nanos + d.nanos < 0x10000000000000000 * 1000000000) :
    ∃ after, s.record d = .ok after := by
  unfold TimingStats.record
  dsimp only
  rw [if_pos hcount]
  have hadd : s.total.add? d = some ⟨s.total.nanos + d.nanos, htotal⟩ := dif_pos htotal
  rw [hadd]
  exact ⟨_, rfl⟩

lemma Tells.record (h : a.Tells samples) {sample : TimingSample} {after : TimingAggregate}
    (hrecord : a.record sample = .ok after) : after.Tells (samples ++ [sample]) := by
  unfold TimingAggregate.record at hrecord
  split at hrecord
  · rename_i stats hstats
    obtain ⟨hcount, htotal⟩ := stats_record hstats
    cases hrecord
    exact h.insert hcount htotal
  · cases hrecord

/-- A sample that fits in with the others can be recorded. -/
lemma Tells.exists_record (h : a.Tells samples) {sample : TimingSample}
    (hfit : TimingSample.Fit (samples ++ [sample])) : ∃ after, a.record sample = .ok after := by
  obtain ⟨hcount, htotal⟩ := h.getD sample.key
  have hkey := hfit sample.key
  rw [TimingSample.under_append, TimingSample.under_one, if_pos rfl, List.length_append,
    TimingSample.nanos_append] at hkey
  change _ + 1 < _ ∧ _ + (sample.duration.nanos + 0) < _ at hkey
  obtain ⟨stats, hstats⟩ := exists_stats_record (s := (a.get? sample.key).getD .empty)
    (d := sample.duration) (by omega) (by omega)
  unfold TimingAggregate.record
  rw [hstats]
  exact ⟨_, rfl⟩

/-- The aggregate of some samples tells of them. -/
theorem tells_ofSamples {samples : List TimingSample} {a : TimingAggregate}
    (h : ofSamples samples = .ok a) : a.Tells samples := by
  induction samples using List.reverseRecOn generalizing a with
  | nil =>
    cases h
    exact ⟨List.Pairwise.nil, by simp [get?, empty, Keyed.find?],
      by simp [get?, empty, Keyed.find?],
      by simp [get?, empty, Keyed.find?, TimingSample.under]⟩
  | append_singleton rest sample ih =>
    unfold ofSamples at h
    rw [List.foldlM_append] at h
    cases hrest : rest.foldlM TimingAggregate.record empty with
    | error e =>
      rw [hrest] at h
      cases h
    | ok before =>
      rw [hrest] at h
      change before.record sample >>= pure = _ at h
      rw [bind_pure] at h
      exact (ih hrest).record h

end TimingAggregate

namespace WorkerHistory

variable {h h' : WorkerHistory Ledger TimingTask}

/-- A task in the worker's hand does not panic if the samples fit. -/
lemma not_error_of_fit (b : h.Books) (hfolds : h.Folds)
    (hcalm : ∀ deed ∈ h.deeds, deed.isPanic = false)
    (hfit : TimingSample.Fit (TimingTask.samples h.accepted)) {task : TimingTask} {ends : Nat}
    {stopping : Bool} (hphase : h.worker.phase = .running task ends stopping) (state : Ledger) :
    h.worker.state.run task ≠ .error state := by
  intro hrun
  have htells := TimingAggregate.tells_ofSamples (hfolds hcalm)
  have haccount := b.account hcalm
  rw [hphase] at haccount
  cases task with
  | summary request => cases hrun
  | record sample =>
    -- The sample comes right after those that were run.
    have hnext : TimingTask.samples h.accepted =
        TimingTask.samples (Deed.tasks h.deeds) ++ [sample] ++
          TimingTask.samples h.worker.queue := by
      rw [← haccount, TimingTask.samples_append, List.append_assoc]
      rfl
    rw [hnext] at hfit
    obtain ⟨after, hrecord⟩ := htells.exists_record hfit.of_append
    unfold Ledger.run at hrun
    dsimp only at hrun
    rw [hrecord] at hrun
    cases hrun

lemma calm_effect (b : h.Books) (hfolds : h.Folds)
    (hcalm : ∀ deed ∈ h.deeds, deed.isPanic = false)
    (hfit : TimingSample.Fit (TimingTask.samples h.accepted))
    (heffect : Effect Ledger.runnable h h') : ∀ deed ∈ h'.deeds, deed.isPanic = false := by
  obtain ⟨w', accepted', deeds'⟩ := h'
  cases heffect with
  | admits hadmits accepted deeds =>
    obtain rfl : deeds' = h.deeds := deeds
    exact hcalm
  | @moves deed? hmove accepted deeds =>
    obtain rfl : deeds' = h.deeds ++ deed?.toList := deeds
    intro deed hdeed
    rcases List.mem_append.mp hdeed with hdeed | hdeed
    · exact hcalm deed hdeed
    · obtain rfl := Option.mem_toList.mp hdeed
      cases hmove with
      | panics task ends stopping state hphase hrun =>
        exact absurd hrun (not_error_of_fit b hfolds hcalm hfit hphase state)
      | tickPanics state hphase htick => cases htick
      | _ => rfl

end WorkerHistory

namespace CollectorHistory

variable {E L : Type} {h h' : CollectorHistory E L}

lemma Kept.calm_effect (k : h.Kept) (hcalm : ∀ deed ∈ h.deeds, deed.isPanic = false)
    (hfit : TimingSample.Fit h.taken) (heffect : Effect h h') :
    ∀ deed ∈ h'.deeds, deed.isPanic = false := by
  have hwork (work : WorkerHistory.Effect Ledger.runnable h.work h'.work) :
      ∀ deed ∈ h'.deeds, deed.isPanic = false :=
    WorkerHistory.calm_effect k.books k.folds hcalm (by
      change TimingSample.Fit (TimingTask.samples h.accepted)
      rwa [k.taken]) work
  cases heffect with
  | takes sample work accepted submissions dropped metrics => exact hwork work
  | works work samples submissions dropped metrics => exact hwork work
  | drops sample reason work submissions dropped metrics =>
    have hdeeds : h'.deeds = h.deeds := congrArg (·.deeds) work
    rwa [hdeeds]
  | reports log work submissions dropped metrics =>
    have hdeeds : h'.deeds = h.deeds := congrArg (·.deeds) work
    rwa [hdeeds]

lemma taken_effect (heffect : Effect h h') : h.taken <+: h'.taken := by
  cases heffect with
  | takes sample work accepted submissions dropped metrics =>
    exact ⟨_, (taken_of_append submissions).symm⟩
  | drops sample reason work submissions dropped metrics =>
    exact ⟨_, (taken_of_append submissions).symm⟩
  | works work samples submissions dropped metrics =>
    rw [CollectorHistory.taken, ← submissions]
    exact List.prefix_rfl
  | reports log work submissions dropped metrics =>
    rw [CollectorHistory.taken, ← submissions]
    exact List.prefix_rfl

lemma taken_after (h : CollectorHistory E L) (steps : List CollectorStep) :
    h.taken <+: (h.after steps).taken := by
  induction steps generalizing h with
  | nil => exact List.prefix_rfl
  | cons step rest ih => exact (taken_effect (next_effect h step)).trans (ih _)

/-- As long as the samples fit, the worker never panics. -/
theorem Kept.calm_after (k : h.Kept) (hcalm : ∀ deed ∈ h.deeds, deed.isPanic = false)
    (steps : List CollectorStep) (hfit : TimingSample.Fit (h.after steps).taken) :
    ∀ deed ∈ (h.after steps).deeds, deed.isPanic = false := by
  induction steps generalizing h with
  | nil => exact hcalm
  | cons step rest ih =>
    have heffect := next_effect h step
    obtain ⟨later, hlater⟩ := taken_after h (step :: rest)
    have hfit' : TimingSample.Fit h.taken := by
      rw [← hlater] at hfit
      exact hfit.of_append
    exact ih (k.effect heffect) (k.calm_effect hcalm hfit' heffect) hfit

/-- Once every sample has been folded, the aggregate tells of all that were taken. -/
theorem Kept.tells (k : h.Kept) (hcalm : ∀ deed ∈ h.deeds, deed.isPanic = false)
    (hdrained : h.pending = []) : h.collector.worker.state.aggregate.Tells h.taken := by
  have hordered := k.ordered hcalm
  rw [hdrained, List.append_nil] at hordered
  rw [hordered]
  exact TimingAggregate.tells_ofSamples (k.folds hcalm)

end CollectorHistory

end ProcessorHost
