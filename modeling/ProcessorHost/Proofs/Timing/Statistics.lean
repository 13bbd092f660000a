import Mathlib.Algebra.Group.Action.Defs
import Mathlib.Algebra.Order.BigOperators.Group.List
import Mathlib.Tactic.Ring
import ProcessorHost.Proofs.Timing.Aggregation

/-!
# What statistics say

Statistics are kept span by span. Whatever the spans were, the number, the sum, the least and the
greatest of them are what is kept, although the greatest starts at zero and the least with the
first span. So the mean lies between the least and the greatest, rounding included.
-/

namespace ProcessorHost

section Folding

variable {α β ε : Type} {f : β → α → Except ε β} {start last : β} {e : ε} {xs : List α} {x : α}

lemma foldlM_concat_eq_ok : (xs ++ [x]).foldlM f start = .ok last ↔
    ∃ before, xs.foldlM f start = .ok before ∧ f before x = .ok last := by
  rw [List.foldlM_append]
  cases xs.foldlM f start with
  | error e => exact ⟨nofun, fun ⟨_, hnot, _⟩ => nomatch hnot⟩
  | ok before =>
    change f before x >>= pure = _ ↔ _
    rw [bind_pure]
    exact ⟨fun h => ⟨before, rfl, h⟩, fun ⟨_, rfl, h⟩ => h⟩

lemma foldlM_concat_eq_error : (xs ++ [x]).foldlM f start = .error e ↔
    xs.foldlM f start = .error e ∨
      ∃ before, xs.foldlM f start = .ok before ∧ f before x = .error e := by
  rw [List.foldlM_append]
  cases xs.foldlM f start with
  | error e' => exact ⟨.inl, fun h => h.resolve_right fun ⟨_, hnot, _⟩ => nomatch hnot⟩
  | ok before =>
    change f before x >>= pure = _ ↔ _
    rw [bind_pure]
    constructor
    · intro h
      exact .inr ⟨before, rfl, h⟩
    · rintro (hnot | ⟨_, heq, h⟩)
      · cases hnot
      · cases heq
        exact h

end Folding

namespace Span

/-- The sum of some spans in nanoseconds. -/
def nanosOf (spans : List Span) : Nat := (spans.map (·.nanos)).sum

lemma nanosOf_append (spans spans' : List Span) :
    nanosOf (spans ++ spans') = nanosOf spans + nanosOf spans' := by
  simp [nanosOf]

lemma nanosOf_one (d : Span) : nanosOf [d] = d.nanos := by
  simp [nanosOf]

lemma le_nanosOf {spans : List Span} {least : Span} (h : ∀ d ∈ spans, least ≤ d) :
    spans.length * least.nanos ≤ nanosOf spans := by
  have hsum := List.card_nsmul_le_sum (spans.map (·.nanos)) least.nanos
    (List.forall_mem_map.mpr h)
  rwa [List.length_map, smul_eq_mul] at hsum

lemma nanosOf_le {spans : List Span} {greatest : Span} (h : ∀ d ∈ spans, d ≤ greatest) :
    nanosOf spans ≤ spans.length * greatest.nanos := by
  have hsum := List.sum_le_card_nsmul (spans.map (·.nanos)) greatest.nanos
    (List.forall_mem_map.mpr h)
  rwa [List.length_map, smul_eq_mul] at hsum

/-- The seconds can be divided on their own. -/
lemma seconds_divide (s : Span) (n : Nat) : (s.divide n).seconds = s.seconds / n := by
  change s.nanos / n / 1000000000 = s.nanos / 1000000000 / n
  rw [Nat.div_div_eq_div_mul, Nat.div_div_eq_div_mul, Nat.mul_comm]

/-- The rest is divided by itself, and then together with the seconds that are left over. -/
lemma subsecond_divide (s : Span) {n : Nat} (hn : 0 < n) :
    (s.divide n).subsecond = s.subsecond / n +
      (s.seconds % n * 1000000000 + s.subsecond % n) / n := by
  have hnanos : s.nanos = s.seconds * 1000000000 + s.subsecond :=
    (Nat.div_add_mod' s.nanos 1000000000).symm
  have hseconds := Nat.div_add_mod s.seconds n
  have hrest := Nat.div_add_mod s.subsecond n
  have hquotient : s.nanos / n = s.seconds / n * 1000000000 + s.subsecond / n +
      (s.seconds % n * 1000000000 + s.subsecond % n) / n := by
    have hsplit : s.nanos = s.seconds % n * 1000000000 + s.subsecond % n +
        n * (s.seconds / n * 1000000000 + s.subsecond / n) := by
      calc s.nanos = s.seconds * 1000000000 + s.subsecond := hnanos
        _ = (n * (s.seconds / n) + s.seconds % n) * 1000000000 +
            (n * (s.subsecond / n) + s.subsecond % n) := by rw [hseconds, hrest]
        _ = _ := by ring
    rw [hsplit, Nat.add_mul_div_left _ _ hn, Nat.add_comm]
  have hwhole := s.seconds_divide n
  change s.nanos / n / 1000000000 = s.seconds / n at hwhole
  change s.nanos / n % 1000000000 = _
  omega

end Span

namespace TimingStats

/-- The statistics of some spans, recorded one after the other. -/
def ofSpans (spans : List Span) : Except (Overflow × TimingStats) TimingStats :=
  spans.foldlM record empty

/-- Statistics say of some spans how many they are, how long they are together, and which of them
are the least and the greatest. -/
structure Describes (s : TimingStats) (spans : List Span) : Prop where
  count : s.count = spans.length
  total : s.total.nanos = Span.nanosOf spans
  least : spans ≠ [] → s.min ∈ spans ∧ ∀ d ∈ spans, s.min ≤ d
  greatest : spans ≠ [] → s.max ∈ spans ∧ ∀ d ∈ spans, d ≤ s.max
  /-- The greatest starts at zero. -/
  begins : spans = [] → s.max = .zero

variable {s s' after : TimingStats} {d : Span} {spans spans' : List Span}

lemma record_widens (h : s.record d = .ok after) :
    after.min = (s.widen d).min ∧ after.max = (s.widen d).max := by
  unfold record at h
  dsimp only at h
  split at h
  · split at h
    · cases h
      exact ⟨rfl, rfl⟩
    · cases h
  · cases h

lemma describes_empty : empty.Describes [] :=
  ⟨rfl, rfl, fun hne => absurd rfl hne, fun hne => absurd rfl hne, fun _ => rfl⟩

/-- The first span is the least, and a later one only if it is less than the least so far. -/
lemma Describes.least_widen (h : s.Describes spans) (d : Span) :
    (s.widen d).min ∈ spans ++ [d] ∧ ∀ d' ∈ spans ++ [d], (s.widen d).min ≤ d' := by
  have hself : d ≤ d := Nat.le_refl d.nanos
  by_cases hne : spans = []
  · have hcount : s.count = 0 := by rw [h.count, hne, List.length_nil]
    have hmin : (s.widen d).min = d := if_pos (.inl hcount)
    rw [hmin, hne]
    simpa using hself
  · have hcount : s.count ≠ 0 := by rw [h.count]; simpa using hne
    obtain ⟨hmem, hle⟩ := h.least hne
    by_cases hlt : d < s.min
    · have hmin : (s.widen d).min = d := if_pos (.inr hlt)
      rw [hmin, List.forall_mem_append]
      have hless (d' : Span) (hd' : d' ∈ spans) : d ≤ d' :=
        Nat.le_trans (Nat.le_of_lt hlt) (hle d' hd')
      exact ⟨by simp, hless, by simpa using hself⟩
    · have hmin : (s.widen d).min = s.min := if_neg (not_or.mpr ⟨hcount, hlt⟩)
      have hlast : s.min ≤ d := Nat.le_of_not_lt hlt
      rw [hmin, List.forall_mem_append]
      exact ⟨List.mem_append_left _ hmem, hle, by simpa using hlast⟩

/-- A first span of zero leaves the greatest at zero, which then is that span. -/
lemma Describes.greatest_widen (h : s.Describes spans) (d : Span) :
    (s.widen d).max ∈ spans ++ [d] ∧ ∀ d' ∈ spans ++ [d], d' ≤ (s.widen d).max := by
  have hself : d ≤ d := Nat.le_refl d.nanos
  by_cases hlt : s.max < d
  · have hmax : (s.widen d).max = d := if_pos hlt
    have hless (d' : Span) (hd' : d' ∈ spans) : d' ≤ d :=
      Nat.le_trans ((h.greatest (List.ne_nil_of_mem hd')).2 d' hd') (Nat.le_of_lt hlt)
    rw [hmax, List.forall_mem_append]
    exact ⟨by simp, hless, by simpa using hself⟩
  · have hmax : (s.widen d).max = s.max := if_neg hlt
    have hlast : d ≤ s.max := Nat.le_of_not_lt hlt
    rw [hmax, List.forall_mem_append]
    by_cases hne : spans = []
    · have hzero : d = s.max := by
        have hmax := h.begins hne
        rw [hmax] at hlast ⊢
        exact Span.ext (Nat.le_zero.mp hlast)
      subst hne
      exact ⟨by simp [hzero], by simp, by simpa using hlast⟩
    · obtain ⟨hmem, hle⟩ := h.greatest hne
      exact ⟨List.mem_append_left _ hmem, hle, by simpa using hlast⟩

lemma Describes.record (h : s.Describes spans) (hrecord : s.record d = .ok after) :
    after.Describes (spans ++ [d]) := by
  obtain ⟨hcount, htotal⟩ := TimingAggregate.stats_record hrecord
  obtain ⟨hmin, hmax⟩ := record_widens hrecord
  constructor
  case count => rw [hcount, h.count, List.length_append, List.length_singleton]
  case total => rw [htotal, h.total, Span.nanosOf_append, Span.nanosOf_one]
  case least =>
    intro _
    rw [hmin]
    exact h.least_widen d
  case greatest =>
    intro _
    rw [hmax]
    exact h.greatest_widen d
  case begins =>
    intro hnil
    exact absurd hnil (by simp)

lemma ofSpans_concat : ofSpans (spans ++ [d]) = .ok after ↔
    ∃ s, ofSpans spans = .ok s ∧ s.record d = .ok after := foldlM_concat_eq_ok

/-- Spans that could be recorded are described by what was kept. -/
theorem describes_ofSpans (h : ofSpans spans = .ok s) : s.Describes spans := by
  induction spans using List.reverseRecOn generalizing s with
  | nil =>
    cases h
    exact describes_empty
  | append_singleton rest d ih =>
    obtain ⟨before, hbefore, hrecord⟩ := ofSpans_concat.mp h
    exact (ih hbefore).record hrecord

/-- Spans can be recorded as long as neither their number nor their sum is too large. -/
theorem exists_ofSpans (hcount : spans.length < 0x10000000000000000)
    (htotal : Span.nanosOf spans < 0x10000000000000000 * 1000000000) :
    ∃ s, ofSpans spans = .ok s := by
  induction spans using List.reverseRecOn with
  | nil => exact ⟨empty, rfl⟩
  | append_singleton rest d ih =>
    rw [List.length_append, List.length_singleton] at hcount
    rw [Span.nanosOf_append, Span.nanosOf_one] at htotal
    obtain ⟨s, hs⟩ := ih (by omega) (by omega)
    have hdescribes := describes_ofSpans hs
    rw [← hdescribes.count] at hcount
    rw [← hdescribes.total] at htotal
    obtain ⟨after, hafter⟩ := TimingAggregate.exists_stats_record hcount htotal
    exact ⟨after, ofSpans_concat.mpr ⟨s, hs, hafter⟩⟩

/-- What is kept does not depend on the order of the spans. -/
lemma Describes.eq_of_perm (h : s.Describes spans) (h' : s'.Describes spans')
    (hperm : spans.Perm spans') (hne : spans ≠ []) : s = s' := by
  have hne' : spans' ≠ [] := fun hnil => hne (hnil ▸ hperm).eq_nil
  obtain ⟨hmin, hleast⟩ := h.least hne
  obtain ⟨hmin', hleast'⟩ := h'.least hne'
  obtain ⟨hmax, hgreatest⟩ := h.greatest hne
  obtain ⟨hmax', hgreatest'⟩ := h'.greatest hne'
  have hcounts : s.count = s'.count := by rw [h.count, h'.count, hperm.length_eq]
  have htotals : s.total = s'.total := by
    apply Span.ext
    rw [h.total, h'.total]
    exact (hperm.map _).sum_nat
  have hmins : s.min = s'.min :=
    Span.ext (Nat.le_antisymm (hleast _ (hperm.mem_iff.mpr hmin'))
      (hleast' _ (hperm.mem_iff.mp hmin)))
  have hmaxs : s.max = s'.max :=
    Span.ext (Nat.le_antisymm (hgreatest' _ (hperm.mem_iff.mp hmax))
      (hgreatest _ (hperm.mem_iff.mpr hmax')))
  obtain ⟨count, total, min, max⟩ := s
  obtain ⟨count', total', min', max'⟩ := s'
  rw [mk.injEq]
  exact ⟨hcounts, htotals, hmins, hmaxs⟩

/-- The mean is the sum divided by the number and rounded down, and lies between the least and the
greatest. It can be had from whole seconds and the nanoseconds beyond them, without ever
multiplying the whole sum out. -/
structure HasMean (s : TimingStats) : Prop where
  nanos : s.mean.nanos = s.total.nanos / s.count
  seconds : s.mean.seconds = s.total.seconds / s.count
  subsecond : s.mean.subsecond = s.total.subsecond / s.count +
    (s.total.seconds % s.count * 1000000000 + s.total.subsecond % s.count) / s.count
  least_le : s.min ≤ s.mean
  le_greatest : s.mean ≤ s.max
  least_le_total : s.count * s.min.nanos ≤ s.total.nanos
  total_le_greatest : s.total.nanos ≤ s.count * s.max.nanos

lemma Describes.hasMean (h : s.Describes spans) (hne : spans ≠ [])
    (hfew : spans.length < 0x100000000) : s.HasMean := by
  have hcount : 0 < s.count := by rw [h.count]; exact List.length_pos_of_ne_nil hne
  have hmean : s.mean = s.total.divide s.count := by
    unfold mean
    rw [if_neg (Nat.ne_of_gt hcount), if_pos (by rwa [h.count])]
  have hleast : s.count * s.min.nanos ≤ s.total.nanos := by
    rw [h.count, h.total]
    exact Span.le_nanosOf (h.least hne).2
  have hgreatest : s.total.nanos ≤ s.count * s.max.nanos := by
    rw [h.count, h.total]
    exact Span.nanosOf_le (h.greatest hne).2
  constructor
  case nanos => rw [hmean]; rfl
  case seconds => rw [hmean, Span.seconds_divide]
  case subsecond => rw [hmean, Span.subsecond_divide _ hcount]
  case least_le =>
    rw [hmean]
    exact (Nat.le_div_iff_mul_le hcount).mpr (by rwa [Nat.mul_comm])
  case le_greatest =>
    rw [hmean]
    exact Nat.div_le_of_le_mul hgreatest
  case least_le_total => exact hleast
  case total_le_greatest => exact hgreatest

/-- Some spans, fewer than `2 ^ 32` and together not too long, can be recorded, and what is kept
then describes them and has a mean. -/
theorem spans_are_described (hne : spans ≠ []) (hfew : spans.length < 0x100000000)
    (htotal : Span.nanosOf spans < 0x10000000000000000 * 1000000000) :
    ∃ s, ofSpans spans = .ok s ∧ s.Describes spans ∧ s.HasMean := by
  obtain ⟨s, hs⟩ := exists_ofSpans (by omega) htotal
  have hdescribes := describes_ofSpans hs
  exact ⟨s, hs, hdescribes, hdescribes.hasMean hne hfew⟩

/-- A first span of zero, and three that just fit together with it. -/
def crowdedSpans : List Span :=
  [.zero, ⟨11, by decide⟩, ⟨0x10000000000000000 * 1000000000 - 25, by decide⟩, ⟨13, by decide⟩]

theorem crowded_spans_are_described : crowdedSpans ≠ [] ∧ crowdedSpans.length < 0x100000000 ∧
    Span.nanosOf crowdedSpans < 0x10000000000000000 * 1000000000 ∧
    ∃ s, ofSpans crowdedSpans = .ok s ∧ s.Describes crowdedSpans ∧ s.HasMean :=
  ⟨by decide, by decide, by decide,
    spans_are_described (by decide) (by decide) (by decide)⟩

end TimingStats

end ProcessorHost
