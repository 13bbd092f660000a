import Mathlib.Data.List.Induction
import ProcessorHost.Call.Call
import ProcessorHost.Proofs.Timing.Aggregation

/-!
# The timings of a call

A response lists the sums of the durations of the samples of its call by the texts of their keys.
Different keys may have one text; their durations are then in one sum. Every text of a key is
listed once, and the sums add up to all there is.
-/

namespace ProcessorHost

namespace TimingSample

/-- The samples whose key has a text. -/
def shown (s : String) (samples : List TimingSample) : List TimingSample :=
  samples.filter fun sample => sample.key.text = s

lemma shown_append_one (s : String) (samples : List TimingSample) (sample : TimingSample) :
    nanos (shown s (samples ++ [sample])) =
      nanos (shown s samples) + if sample.key.text = s then sample.duration.nanos else 0 := by
  unfold shown
  rw [List.filter_append, nanos_append]
  by_cases h : sample.key.text = s
  · simp [h, nanos]
  · simp [h, nanos]

end TimingSample

namespace Call

/-- What a list of timings says about some samples. -/
structure TimingsOf (samples : List TimingSample) (timings : List (String × Span)) : Prop where
  increasing : Keyed.Increasing timings
  /-- The texts of the keys of the samples are listed, and nothing else. -/
  listed : ∀ s, s ∈ timings.map Prod.fst ↔ ∃ sample ∈ samples, sample.key.text = s
  /-- Under a text stands the sum of the durations of the samples whose key has that text. -/
  sums : ∀ s span, (s, span) ∈ timings →
    span.nanos = TimingSample.nanos (TimingSample.shown s samples)
  total : (timings.map fun e => e.2.nanos).sum = TimingSample.nanos samples

variable {samples : List TimingSample} {timings : List (String × Span)}

lemma TimingsOf.getD (h : TimingsOf samples timings) (s : String) :
    ((Keyed.find? s timings).getD .zero).nanos =
      TimingSample.nanos (TimingSample.shown s samples) := by
  cases hfind : Keyed.find? s timings with
  | some old => exact h.sums s old ((Keyed.find?_eq_some_iff h.increasing).mp hfind)
  | none =>
    -- No sample has had this text so far.
    have hnone : TimingSample.shown s samples = [] := by
      rw [TimingSample.shown, List.filter_eq_nil_iff]
      intro other hother htext
      have hlisted := (h.listed s).mpr ⟨other, hother, of_decide_eq_true htext⟩
      rw [← Keyed.find?_isSome_iff, hfind] at hlisted
      cases hlisted
    rw [hnone]
    rfl

lemma TimingsOf.add (h : TimingsOf samples timings) {sample : TimingSample} {sum : Span}
    (hsum : sum.nanos =
      ((Keyed.find? sample.key.text timings).getD .zero).nanos + sample.duration.nanos) :
    TimingsOf (samples ++ [sample]) (Keyed.insert sample.key.text sum timings) where
  increasing := h.increasing.insert _ _
  listed s := by
    rw [Keyed.mem_keys_insert, h.listed]
    simp only [List.mem_append, List.mem_singleton]
    constructor
    · rintro (rfl | ⟨other, hmem, htext⟩)
      · exact ⟨sample, .inr rfl, rfl⟩
      · exact ⟨other, .inl hmem, htext⟩
    · rintro ⟨other, hmem | rfl, htext⟩
      · exact .inr ⟨other, hmem, htext⟩
      · exact .inl htext.symm
  sums s span hmem := by
    rw [← Keyed.find?_eq_some_iff (h.increasing.insert _ _)] at hmem
    rw [TimingSample.shown_append_one]
    by_cases hs : sample.key.text = s
    · subst hs
      rw [Keyed.find?_insert_self, Option.some.injEq] at hmem
      rw [if_pos rfl, ← hmem, hsum, h.getD]
    · rw [Keyed.find?_insert_of_ne (Ne.symm hs), Keyed.find?_eq_some_iff h.increasing] at hmem
      rw [if_neg hs, Nat.add_zero]
      exact h.sums s span hmem
  total := by
    have hinsert := Keyed.sum_insert h.increasing Span.nanos sample.key.text sum
    have hold : ((Keyed.find? sample.key.text timings).getD .zero).nanos =
        ((Keyed.find? sample.key.text timings).map Span.nanos).getD 0 := by
      cases Keyed.find? sample.key.text timings with
      | some old => rfl
      | none => rfl
    have htotal := h.total
    rw [TimingSample.nanos_append]
    change _ = _ + (sample.duration.nanos + 0)
    omega

/-- The timings of a call are those of its samples. -/
theorem timingsOf_of_timings? (h : timings? samples = some timings) :
    TimingsOf samples timings := by
  induction samples using List.reverseRecOn generalizing timings with
  | nil =>
    cases h
    exact ⟨List.Pairwise.nil, by simp, by simp, rfl⟩
  | append_singleton rest sample ih =>
    unfold timings? at h
    rw [List.foldlM_append] at h
    obtain ⟨before, hbefore, hafter⟩ := Option.bind_eq_some_iff.mp h
    rw [List.foldlM_cons] at hafter
    obtain ⟨after, hadd, hdone⟩ := Option.bind_eq_some_iff.mp hafter
    obtain rfl := Option.some.inj hdone
    obtain ⟨sum, hsum, rfl⟩ := Option.map_eq_some_iff.mp hadd
    exact (ih hbefore).add (Span.add?_eq_some_iff.mp hsum)

/-- Two keys with one text. -/
example : timings? [⟨⟨"read:file", "open"⟩, ⟨2, by decide⟩, .epoch⟩,
    ⟨⟨"read", "file:open"⟩, ⟨3, by decide⟩, .epoch⟩] =
    some [("read:file:open", ⟨5, by decide⟩)] := by decide

/-- Under no text of a key do the durations add up to more than a span holds. -/
def AddUp (samples : List TimingSample) : Prop :=
  ∀ s, TimingSample.nanos (TimingSample.shown s samples) < 0x10000000000000000 * 1000000000

lemma TimingsOf.addUp (h : TimingsOf samples timings) : AddUp samples := by
  intro s
  rw [← h.getD s]
  exact Span.nanos_lt _

lemma AddUp.of_append_one {rest : List TimingSample} {sample : TimingSample}
    (h : AddUp (rest ++ [sample])) : AddUp rest := fun s =>
  Nat.lt_of_le_of_lt (by rw [TimingSample.shown_append_one]; exact Nat.le_add_right _ _) (h s)

/-- There are timings exactly if the durations add up under each text. -/
theorem exists_timings_iff (samples : List TimingSample) :
    (∃ timings, timings? samples = some timings) ↔ AddUp samples := by
  constructor
  · rintro ⟨timings, htimings⟩
    exact (timingsOf_of_timings? htimings).addUp
  · intro h
    induction samples using List.reverseRecOn with
    | nil => exact ⟨[], rfl⟩
    | append_singleton rest sample ih =>
      obtain ⟨before, hbefore⟩ := ih h.of_append_one
      have hsum : ((Keyed.find? sample.key.text before).getD .zero).nanos + sample.duration.nanos <
          0x10000000000000000 * 1000000000 := by
        have htext := h sample.key.text
        rwa [TimingSample.shown_append_one, if_pos rfl,
          ← (timingsOf_of_timings? hbefore).getD] at htext
      refine ⟨Keyed.insert sample.key.text ⟨_, hsum⟩ before, ?_⟩
      unfold timings? at hbefore ⊢
      rw [List.foldlM_append, hbefore]
      have hadd : ((Keyed.find? sample.key.text before).getD .zero).add? sample.duration =
          some ⟨_, hsum⟩ := Span.add?_eq_some_iff.mpr rfl
      change Option.bind (Option.map _ (Span.add? _ _)) _ = _
      rw [hadd]
      rfl

/-- They add up if all samples together are not too long. -/
lemma AddUp.of_total (h : TimingSample.nanos samples < 0x10000000000000000 * 1000000000) :
    AddUp samples := fun _ => Nat.lt_of_le_of_lt (TimingSample.nanos_le List.filter_sublist) h

lemma nanos_of_short {samples : List TimingSample}
    (h : ∀ sample ∈ samples, sample.duration.nanos < UInt64.size) :
    TimingSample.nanos samples ≤ samples.length * (UInt64.size - 1) := by
  induction samples with
  | nil => exact Nat.zero_le _
  | cons sample rest ih =>
    have hfirst := h sample List.mem_cons_self
    have hrest := ih fun other hmem => h other (List.mem_cons_of_mem _ hmem)
    have hcons : TimingSample.nanos (sample :: rest) =
        sample.duration.nanos + TimingSample.nanos rest := rfl
    rw [hcons, List.length_cons, Nat.add_mul]
    omega

end Call

end ProcessorHost
