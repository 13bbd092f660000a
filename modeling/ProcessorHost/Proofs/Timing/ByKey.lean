import Mathlib.Data.List.Dedup
import ProcessorHost.Proofs.Text.ByteOrder
import ProcessorHost.Proofs.Timing.Statistics
import ProcessorHost.Proofs.Timing.Unharmed

/-!
# Samples by key

The aggregate of some samples has an entry for each key that they have, in the order of the keys,
with the statistics of the samples with that key and of no others. So it does not depend on the
order of the samples, and neither does whether one of them is too much.
-/

namespace ProcessorHost

namespace TimingKey

/-- The order of the keys by the bytes of the context, then of the stopwatch. -/
def Precedes (k k' : TimingKey) : Prop :=
  Json.bytesOf k.context < Json.bytesOf k'.context ∨
    k.context = k'.context ∧ Json.bytesOf k.stopwatch < Json.bytesOf k'.stopwatch

lemma precedes_iff (k k' : TimingKey) : k.Precedes k' ↔ k < k' := by
  unfold Precedes
  rw [Json.bytesOf_lt_iff, Json.bytesOf_lt_iff]
  exact Iff.rfl

end TimingKey

namespace Keyed

variable {κ α : Type} [LT κ] [Std.Irrefl ((· < ·) : κ → κ → Prop)]

lemma Increasing.nodup {entries : List (κ × α)} (h : Increasing entries) :
    (entries.map Prod.fst).Nodup := by
  change (entries.map Prod.fst).Pairwise (· ≠ ·)
  apply h.imp
  intro key key' hlt heq
  subst heq
  exact Std.Irrefl.irrefl key hlt

/-- A table is known by what is found in it. -/
lemma Increasing.eq_of_find? [DecidableEq κ] [IsTrans κ (· < ·)]
    {entries entries' : List (κ × α)} (h : Increasing entries) (h' : Increasing entries')
    (hfind : ∀ key, find? key entries = find? key entries') : entries = entries' := by
  have hmem (entry : κ × α) : entry ∈ entries ↔ entry ∈ entries' := by
    rw [← find?_eq_some_iff h, hfind, find?_eq_some_iff h']
  have hperm : entries.Perm entries' :=
    (List.perm_ext_iff_of_nodup h.nodup.of_map h'.nodup.of_map).mpr hmem
  refine hperm.eq_of_pairwise ?_ (List.pairwise_map.mp h) (List.pairwise_map.mp h')
  intro first second _ _ hlt hgt
  exact absurd (IsTrans.trans _ _ _ hlt hgt) (Std.Irrefl.irrefl _)

end Keyed

namespace TimingSample

/-- The durations of the samples with a key, in order. -/
def spansUnder (key : TimingKey) (samples : List TimingSample) : List Span :=
  (under key samples).map (·.duration)

lemma spansUnder_append (key : TimingKey) (samples : List TimingSample) (sample : TimingSample) :
    spansUnder key (samples ++ [sample]) =
      spansUnder key samples ++ if sample.key = key then [sample.duration] else [] := by
  unfold spansUnder
  rw [under_append, under_one, List.map_append]
  split
  · rfl
  · rfl

lemma spansUnder_eq_nil (key : TimingKey) (samples : List TimingSample) :
    spansUnder key samples = [] ↔ under key samples = [] := List.map_eq_nil_iff

end TimingSample

namespace TimingAggregate

open TimingSample

/-- What an aggregate shows of the samples that it was made from. -/
structure Summarises (a : TimingAggregate) (samples : List TimingSample) : Prop where
  /-- There is an entry for a key exactly if some sample has that key. -/
  present : ∀ key, (a.get? key).isSome ↔ ∃ sample ∈ samples, sample.key = key
  /-- An entry has the statistics of the samples with its key. -/
  stats : ∀ key stats, a.get? key = some stats →
    TimingStats.ofSpans (spansUnder key samples) = .ok stats
  listed : ∀ key stats, (key, stats) ∈ a.entries ↔ a.get? key = some stats
  size : a.size = (samples.map (·.key)).dedup.length
  ordered : (a.entries.map Prod.fst).Pairwise TimingKey.Precedes

variable {a a' after : TimingAggregate} {samples samples' : List TimingSample}
  {sample : TimingSample}

lemma ofSamples_concat : ofSamples (samples ++ [sample]) = .ok after ↔
    ∃ a, ofSamples samples = .ok a ∧ a.record sample = .ok after := foldlM_concat_eq_ok

/-- A record changes the entry of its key, and no other. -/
lemma record_eq_ok (h : a.record sample = .ok after) :
    (∃ stats, ((a.get? sample.key).getD .empty).record sample.duration = .ok stats ∧
      after.get? sample.key = some stats) ∧ ∀ key ≠ sample.key, after.get? key = a.get? key := by
  unfold record at h
  split at h
  · rename_i stats hstats
    cases h
    exact ⟨⟨stats, hstats, Keyed.find?_insert_self _ _ _⟩,
      fun key hne => Keyed.find?_insert_of_ne hne _ _⟩
  · cases h

/-- The statistics of a key are those of the samples with that key. -/
lemma ofSpans_under (h : ofSamples samples = .ok a) (key : TimingKey) :
    TimingStats.ofSpans (spansUnder key samples) = .ok ((a.get? key).getD .empty) := by
  induction samples using List.reverseRecOn generalizing a with
  | nil =>
    cases h
    rfl
  | append_singleton rest sample ih =>
    obtain ⟨before, hbefore, hrecord⟩ := ofSamples_concat.mp h
    obtain ⟨⟨stats, hstats, hself⟩, hother⟩ := record_eq_ok hrecord
    have hrest := ih hbefore
    rw [spansUnder_append]
    by_cases hkey : sample.key = key
    · subst hkey
      rw [if_pos rfl, hself]
      exact TimingStats.ofSpans_concat.mpr ⟨_, hrest, hstats⟩
    · rw [if_neg hkey, List.append_nil, hother key (Ne.symm hkey)]
      exact hrest

lemma isSome_get?_iff (h : ofSamples samples = .ok a) (key : TimingKey) :
    (a.get? key).isSome ↔ ∃ sample ∈ samples, sample.key = key := by
  rw [Option.isSome_iff_ne_none, ne_eq, (tells_ofSamples h).absent]
  simp [under, List.filter_eq_nil_iff]

/-- There is one entry for each key of the samples. -/
lemma keys_perm (h : ofSamples samples = .ok a) :
    (a.entries.map Prod.fst).Perm (samples.map (·.key)).dedup := by
  rw [List.perm_ext_iff_of_nodup (tells_ofSamples h).increasing.nodup (List.nodup_dedup _)]
  intro key
  rw [← Keyed.find?_isSome_iff, List.mem_dedup, List.mem_map]
  exact isSome_get?_iff h key

/-- What an aggregate was made from shows in it. -/
theorem summarises_ofSamples (h : ofSamples samples = .ok a) : a.Summarises samples := by
  have hincreasing := (tells_ofSamples h).increasing
  constructor
  case present => exact isSome_get?_iff h
  case stats =>
    intro key stats hget
    have hspans := ofSpans_under h key
    rwa [hget] at hspans
  case listed => exact fun key stats => (Keyed.find?_eq_some_iff hincreasing).symm
  case size =>
    rw [← (keys_perm h).length_eq, List.length_map]
    rfl
  case ordered => exact hincreasing.imp fun hlt => (TimingKey.precedes_iff _ _).mpr hlt

/-- The order of the samples does not show. -/
lemma eq_of_perm (h : ofSamples samples = .ok a) (h' : ofSamples samples' = .ok a')
    (hperm : samples.Perm samples') : a = a' := by
  have htells := tells_ofSamples h
  have htells' := tells_ofSamples h'
  have hget (key : TimingKey) : a.get? key = a'.get? key := by
    have hunder := perm_under hperm key
    have hspans := TimingStats.describes_ofSpans (ofSpans_under h key)
    have hspans' := TimingStats.describes_ofSpans (ofSpans_under h' key)
    by_cases hnone : under key samples = []
    · have hnone' : under key samples' = [] := (hnone ▸ hunder).symm.eq_nil
      rw [(htells.absent key).mpr hnone, (htells'.absent key).mpr hnone']
    · have hsome : a.get? key ≠ none := mt (htells.absent key).mp hnone
      have hsome' : a'.get? key ≠ none :=
        mt (htells'.absent key).mp fun hnone' => hnone (hnone' ▸ hunder).eq_nil
      obtain ⟨stats, hstats⟩ := Option.ne_none_iff_exists'.mp hsome
      obtain ⟨stats', hstats'⟩ := Option.ne_none_iff_exists'.mp hsome'
      rw [hstats, Option.getD_some] at hspans
      rw [hstats', Option.getD_some] at hspans'
      have hsame := hspans.eq_of_perm hspans' (hunder.map _)
        (mt (spansUnder_eq_nil key samples).mp hnone)
      rw [hstats, hstats', hsame]
  have hentries : a.entries = a'.entries :=
    htells.increasing.eq_of_find? htells'.increasing hget
  obtain ⟨entries⟩ := a
  exact congrArg mk hentries

lemma ofSamples_of_perm (h : ofSamples samples = .ok a) (hperm : samples.Perm samples') :
    ofSamples samples' = .ok a := by
  have hfit := (exists_ofSamples_iff samples).mp ⟨a, h⟩
  obtain ⟨a', h'⟩ := (exists_ofSamples_iff samples').mpr (hfit.perm hperm)
  rwa [eq_of_perm h h' hperm]

lemma stats_overflow {s left : TimingStats} {d : Span} {overflow : TimingStats.Overflow}
    (h : s.record d = .error (overflow, left)) (hcount : s.count + 1 < 0x10000000000000000) :
    overflow = .total := by
  unfold TimingStats.record at h
  dsimp only at h
  rw [if_pos hcount] at h
  split at h
  · cases h
  · cases h
    rfl

/-- Unless there are too many samples with one key, only a sum can be too large. -/
lemma overflow_eq_total {left : TimingAggregate} {overflow : TimingStats.Overflow}
    (hcount : ∀ key, (under key samples).length < 0x10000000000000000)
    (h : ofSamples samples = .error (overflow, left)) : overflow = .total := by
  induction samples using List.reverseRecOn with
  | nil => cases h
  | append_singleton rest sample ih =>
    have hrest (key : TimingKey) : (under key rest).length < 0x10000000000000000 := by
      have hkey := hcount key
      rw [under_append, List.length_append] at hkey
      omega
    rcases foldlM_concat_eq_error.mp h with hearlier | ⟨before, hbefore, hrecord⟩
    · exact ih hrest hearlier
    · unfold TimingAggregate.record at hrecord
      split at hrecord
      · cases hrecord
      · rename_i stats hstats
        cases hrecord
        apply stats_overflow hstats
        have hself := hcount sample.key
        rw [under_append, under_one, if_pos rfl, List.length_append, List.length_singleton] at hself
        rwa [((tells_ofSamples hbefore).getD sample.key).1]

lemma exists_error_iff (samples : List TimingSample) :
    (∃ e, ofSamples samples = .error e) ↔ ¬ TimingSample.Fit samples := by
  rw [← exists_ofSamples_iff]
  cases ofSamples samples with
  | ok a => simp
  | error e => simp

lemma exists_total_overflow_iff (hcount : ∀ key, (under key samples).length < 0x10000000000000000) :
    (∃ left, ofSamples samples = .error (.total, left)) ↔
      ∃ key, 0x10000000000000000 * 1000000000 ≤ nanos (under key samples) := by
  have hfit : TimingSample.Fit samples ↔
      ¬ ∃ key, 0x10000000000000000 * 1000000000 ≤ nanos (under key samples) := by
    simp only [TimingSample.Fit, hcount, true_and, not_exists, Nat.not_le]
  rw [← not_iff_not, ← hfit, ← exists_ofSamples_iff]
  cases hsamples : ofSamples samples with
  | ok a => simp
  | error e =>
    obtain ⟨overflow, left⟩ := e
    simp [overflow_eq_total hcount hsamples]

/-- What samples come to when they are aggregated one after the other. -/
structure AggregatesByKey (samples : List TimingSample) : Prop where
  /-- All of them can be recorded exactly if no number and no sum of one key is too large. -/
  succeeds : (∃ a, ofSamples samples = .ok a) ↔ TimingSample.Fit samples
  summary : ∀ a, ofSamples samples = .ok a → a.Summarises samples
  /-- In another order they come to the same. -/
  orderless : ∀ samples', samples.Perm samples' →
    ∀ a, ofSamples samples' = .ok a ↔ ofSamples samples = .ok a
  /-- In another order there is a record that fails exactly if there is one in this. -/
  overflows : ∀ samples', samples.Perm samples' →
    ((∃ e, ofSamples samples' = .error e) ↔ ∃ e, ofSamples samples = .error e)
  /-- Unless there are too many samples with one key, a sum becomes too large exactly if the samples
  with one key are too long together, in any order. -/
  totals : (∀ key, (under key samples).length < 0x10000000000000000) →
    ∀ samples', samples.Perm samples' →
      ((∃ left, ofSamples samples' = .error (.total, left)) ↔
        ∃ key, 0x10000000000000000 * 1000000000 ≤ nanos (under key samples))

/-- Samples are aggregated by key, whatever their order is. -/
theorem samples_aggregate_by_key (samples : List TimingSample) : AggregatesByKey samples where
  succeeds := exists_ofSamples_iff samples
  summary _ := summarises_ofSamples
  orderless _ hperm _ :=
    ⟨fun h => ofSamples_of_perm h hperm.symm, fun h => ofSamples_of_perm h hperm⟩
  overflows samples' hperm := by
    have hfit : TimingSample.Fit samples' ↔ TimingSample.Fit samples :=
      ⟨fun h => h.perm hperm.symm, fun h => h.perm hperm⟩
    rw [exists_error_iff, exists_error_iff, hfit]
  totals hcount samples' hperm := by
    have hunder (key : TimingKey) := perm_under hperm key
    rw [exists_total_overflow_iff fun key => (hunder key).length_eq ▸ hcount key]
    simp only [← nanos_of_perm (hunder _)]

/-- A colon in a label does not mix keys up. -/
example : (ofSamples [⟨⟨"a:b", "c"⟩, .zero, .epoch⟩,
    ⟨⟨"a", "b:c"⟩, .zero, .epoch⟩]).toOption.map size = some 2 := by decide

end TimingAggregate

end ProcessorHost
