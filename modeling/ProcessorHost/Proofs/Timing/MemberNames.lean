import ProcessorHost.Proofs.Json.Dictionaries
import ProcessorHost.Proofs.Json.Numerals
import ProcessorHost.Proofs.Timing.ByKey

/-!
# Members of a summary

The written summary of some samples has one member for each of their keys, with the key's text as
its name. The text of a key does not tell where its context ends, so two keys can have one text.
Unless this happens, whoever can read the statistics of one key gets those of all keys out of the
summary.
-/

namespace ProcessorHost

namespace TimingKey

/-- The text between the colons can belong to the context of the one key and to the stopwatch of the
other. -/
def Overlaps (k k' : TimingKey) : Prop :=
  ∃ middle : String, k'.context = k.context ++ ":" ++ middle ∧
    k.stopwatch = middle ++ ":" ++ k'.stopwatch

variable {k k' : TimingKey}

lemma toList_text (k : TimingKey) :
    k.text.toList = k.context.toList ++ ':' :: k.stopwatch.toList := by
  unfold text
  rw [String.toList_append, String.toList_append, List.append_assoc]
  rfl

lemma Overlaps.text_eq (h : k.Overlaps k') : k.text = k'.text := by
  obtain ⟨middle, hcontext, hstopwatch⟩ := h
  unfold text
  rw [hcontext, hstopwatch]
  simp only [String.append_assoc]

lemma Overlaps.length_lt (h : k.Overlaps k') : k.context.length < k'.context.length := by
  obtain ⟨middle, hcontext, -⟩ := h
  have hcolon : ":".length = 1 := rfl
  rw [hcontext, String.length_append, String.length_append, hcolon]
  omega

lemma Overlaps.ne (h : k.Overlaps k') : k ≠ k' := by
  rintro rfl
  exact Nat.lt_irrefl _ h.length_lt

/-- If one context goes on after the other, so does the one key's text. -/
lemma eq_or_overlaps {more : List Char} (hcontext : k'.context.toList = k.context.toList ++ more)
    (hstopwatch : ':' :: k.stopwatch.toList = more ++ ':' :: k'.stopwatch.toList) :
    k = k' ∨ k.Overlaps k' := by
  cases more with
  | nil =>
    left
    rw [List.append_nil] at hcontext
    have hstopwatch' := (List.cons.inj hstopwatch).2
    change TimingKey.mk k.context k.stopwatch = TimingKey.mk k'.context k'.stopwatch
    rw [String.toList_inj.mp hcontext, String.toList_inj.mp hstopwatch']
  | cons colon middle =>
    right
    obtain ⟨rfl, hrest⟩ := List.cons.inj hstopwatch
    refine ⟨.ofList middle, String.toList_inj.mp ?_, String.toList_inj.mp ?_⟩
    · simp [hcontext]
    · simp [hrest]

/-- Two keys have one text if they are the same or the one overlaps the other. -/
theorem text_eq_iff : k.text = k'.text ↔ k = k' ∨ k.Overlaps k' ∨ k'.Overlaps k := by
  constructor
  · intro htext
    have hlists := congrArg String.toList htext
    rw [toList_text, toList_text] at hlists
    -- One of the contexts goes on where the other ends, with nothing or with a colon first.
    rcases List.append_eq_append_iff.mp hlists with
      ⟨more, hcontext, hstopwatch⟩ | ⟨more, hcontext, hstopwatch⟩
    · exact (eq_or_overlaps hcontext hstopwatch).imp_right .inl
    · exact (eq_or_overlaps hcontext hstopwatch).imp Eq.symm .inr
  · rintro (rfl | hoverlaps | hoverlaps)
    · rfl
    · exact hoverlaps.text_eq
    · exact hoverlaps.text_eq.symm

lemma overlaps_iff :
    k.Overlaps k' ↔ k.text = k'.text ∧ k.context.length < k'.context.length := by
  refine ⟨fun h => ⟨h.text_eq, h.length_lt⟩, fun ⟨htext, hlt⟩ => ?_⟩
  rcases text_eq_iff.mp htext with rfl | hoverlaps | hoverlaps
  · exact absurd hlt (Nat.lt_irrefl _)
  · exact hoverlaps
  · exact absurd hlt (Nat.lt_asymm hoverlaps.length_lt)

instance (k k' : TimingKey) : Decidable (k.Overlaps k') := decidable_of_iff' _ overlaps_iff

end TimingKey

namespace Json

/-- Reads an object as it stands, if there is no other object and no closing brace inside. -/
def Decoder.flatObject : Decoder (List UInt8) := fun _ s =>
  let inside := s.takeWhile (· ≠ ascii '\x7d')
  match s.drop inside.length with
  | [] => refuse .endInObject
  | brace :: rest => .ok (inside ++ [brace], rest)

lemma not_mem_joined {b : UInt8} (hcomma : b ≠ ascii ',') {parts : List (List UInt8)}
    (hparts : ∀ part ∈ parts, b ∉ part) : b ∉ joined parts := by
  cases parts with
  | nil => exact List.not_mem_nil
  | cons part parts =>
    obtain ⟨hpart, hrest⟩ := List.forall_mem_cons.mp hparts
    rw [joined_cons, List.mem_append, List.mem_flatMap]
    rintro (hmem | ⟨part', hpart', hmem⟩)
    · exact hpart hmem
    · exact (List.mem_cons.mp hmem).elim hcomma (hrest part' hpart')

lemma brace_not_mem_memberBytes {key : String} {value : List UInt8}
    (hkey : ascii '\x7d' ∉ (key.toList.flatMap String.utf8EncodeChar).flatMap escapedByte)
    (hvalue : ascii '\x7d' ∉ value) : ascii '\x7d' ∉ memberBytes key value := by
  rw [← bytesOf_eq] at hkey
  simp only [memberBytes, textBytes, List.mem_append, List.mem_cons, List.not_mem_nil, or_false]
  rintro ((hmem | hmem | hmem) | hmem | hmem)
  · exact absurd hmem (by decide)
  · exact hkey hmem
  · exact absurd hmem (by decide)
  · exact absurd hmem (by decide)
  · exact hvalue hmem

lemma brace_not_mem_number (n : Number) : ascii '\x7d' ∉ (Value.number n).bytes :=
  n.isNumeral_written.not_mem_bytesOf (by decide)

lemma flatObject_reads {v : Value} (inside : List UInt8) (hv : v.bytes = inside ++ [ascii '\x7d'])
    (hinside : ascii '\x7d' ∉ inside) : Decoder.flatObject.Reads v v.bytes := by
  intro size tail _ _
  have hother : ∀ b ∈ inside, decide (b ≠ ascii '\x7d') = true := by
    intro b hb
    exact decide_eq_true fun heq => hinside (heq ▸ hb)
  have htake : (inside ++ ascii '\x7d' :: tail).takeWhile (· ≠ ascii '\x7d') = inside := by
    rw [List.takeWhile_append_of_pos hother]
    simp
  have hbytes : v.bytes ++ tail = inside ++ ascii '\x7d' :: tail := by
    rw [hv, List.append_assoc]
    rfl
  rw [hbytes, hv]
  unfold Decoder.flatObject
  dsimp only
  rw [htake, List.drop_left]

end Json

namespace TimingStats

/-- There is a decoder that reads the statistics of a key, whatever they are. -/
lemma flatObject_reads (stats : TimingStats) :
    Json.Decoder.flatObject.Reads stats.value stats.value.bytes := by
  refine Json.flatObject_reads (_ :: _) rfl ?_
  rw [List.mem_cons, not_or]
  refine ⟨by decide, Json.not_mem_joined (by decide) ?_⟩
  simp only [Json.Value.memberList, List.forall_mem_cons]
  refine ⟨?_, ?_, ?_, ?_, ?_, fun part hpart => absurd hpart List.not_mem_nil⟩
  all_goals exact Json.brace_not_mem_memberBytes (by decide) (Json.brace_not_mem_number _)

end TimingStats

namespace TimingAggregate

open TimingSample

/-- The written form of an aggregate has the statistics of every key of the samples. -/
structure IsProperMap (a : TimingAggregate) (samples : List TimingSample) : Prop where
  /-- There is one member for each key, with the key's text as its name, and no name is there
  twice. -/
  members : ∃ members, a.value = .object members ∧
    (members.map Prod.fst).Perm ((samples.map (·.key)).dedup.map TimingKey.text) ∧
    (members.map Prod.fst).Nodup
  /-- Who can read the statistics of one key finds those of each key by its text. -/
  recovered : ∀ {α : Type} (item : Json.Decoder α) (read : TimingStats → α),
    (∀ key stats, a.get? key = some stats → item.Reads stats.value (read stats)) →
      ∃ table, Json.document (Json.Decoder.dictionary item) a.value.bytes = .ok table ∧
        ∀ sample ∈ samples, ∃ stats,
          TimingStats.ofSpans (spansUnder sample.key samples) = .ok stats ∧
            Keyed.find? sample.key.text table = some (read stats)

variable {a : TimingAggregate} {samples : List TimingSample}

/-- What the members of a summary are called. -/
def memberNames (a : TimingAggregate) : List String := a.entries.map fun entry => entry.1.text

lemma memberNames_perm (h : ofSamples samples = .ok a) :
    a.memberNames.Perm ((samples.map (·.key)).dedup.map TimingKey.text) := by
  have hkeys := (keys_perm h).map TimingKey.text
  rwa [List.map_map] at hkeys

/-- The names are distinct if no two keys of the samples overlap. -/
lemma nodup_memberNames_iff (h : ofSamples samples = .ok a) :
    a.memberNames.Nodup ↔
      ∀ sample ∈ samples, ∀ sample' ∈ samples, ¬ sample.key.Overlaps sample'.key := by
  rw [(memberNames_perm h).nodup_iff, List.nodup_map_iff_inj_on (List.nodup_dedup _)]
  simp only [List.mem_dedup, List.mem_map]
  constructor
  · rintro hinj sample hsample sample' hsample' hoverlaps
    exact hoverlaps.ne (hinj _ ⟨sample, hsample, rfl⟩ _ ⟨sample', hsample', rfl⟩
      hoverlaps.text_eq)
  · rintro hapart _ ⟨sample, hsample, rfl⟩ _ ⟨sample', hsample', rfl⟩ htext
    rcases TimingKey.text_eq_iff.mp htext with heq | hoverlaps | hoverlaps
    · exact heq
    · exact absurd hoverlaps (hapart sample hsample sample' hsample')
    · exact absurd hoverlaps (hapart sample' hsample' sample hsample)

/-- Whoever reads the summary gets a table of the entries by the texts of their keys. -/
lemma document_value {α : Type} {item : Json.Decoder α} (read : TimingStats → α)
    (hitem : ∀ entry ∈ a.entries, item.Reads entry.2.value (read entry.2)) :
    Json.document (Json.Decoder.dictionary item) a.value.bytes =
      .ok (Keyed.ofList (a.entries.map fun entry => (entry.1.text, read entry.2))) := by
  have hread := Json.document_object (fun entry : TimingKey × TimingStats => entry.1.text)
    (fun entry => entry.2.value) (fun entry => read entry.2) a.entries hitem
  exact hread

lemma isProperMap_of_nodup (h : ofSamples samples = .ok a) (hnodup : a.memberNames.Nodup) :
    a.IsProperMap samples := by
  have hsummary := summarises_ofSamples h
  have hnames {α : Type} (f : TimingKey × TimingStats → String × α)
      (hf : ∀ entry, (f entry).1 = entry.1.text) :
      (a.entries.map f).map Prod.fst = a.memberNames := by
    rw [List.map_map]
    exact List.map_congr_left fun entry _ => hf entry
  constructor
  case members =>
    refine ⟨_, rfl, ?_⟩
    rw [hnames _ fun _ => rfl]
    exact ⟨memberNames_perm h, hnodup⟩
  case recovered =>
    intro α item read hitem
    refine ⟨_, document_value read fun entry hentry =>
      hitem entry.1 entry.2 ((hsummary.listed _ _).mp hentry), fun sample hsample => ?_⟩
    obtain ⟨stats, hstats⟩ :=
      Option.isSome_iff_exists.mp ((hsummary.present sample.key).mpr ⟨sample, hsample, rfl⟩)
    refine ⟨stats, hsummary.stats _ _ hstats, Keyed.find?_ofList ?_ ?_⟩
    · rwa [hnames _ fun _ => rfl]
    · exact List.mem_map.mpr ⟨(sample.key, stats), (hsummary.listed _ _).mpr hstats, rfl⟩

/-- Samples are written as a proper map exactly if no two of their keys overlap. -/
theorem isProperMap_iff (samples : List TimingSample) (a : TimingAggregate)
    (h : ofSamples samples = .ok a) :
    a.IsProperMap samples ↔
      ∀ sample ∈ samples, ∀ sample' ∈ samples, ¬ sample.key.Overlaps sample'.key := by
  rw [← nodup_memberNames_iff h]
  refine ⟨fun hproper => ?_, isProperMap_of_nodup h⟩
  obtain ⟨members, hvalue, -, hnodup⟩ := hproper.members
  obtain rfl := Json.Value.object.inj hvalue
  rwa [List.map_map] at hnodup

/-- A colon in a label does no harm as long as the rest of the labels differs. -/
theorem coloned_isProperMap :
    ∃ a, ofSamples [⟨⟨"a:b", "c"⟩, .zero, .epoch⟩, ⟨⟨"a", "c:b"⟩, .zero, .epoch⟩] = .ok a ∧
      a.IsProperMap [⟨⟨"a:b", "c"⟩, .zero, .epoch⟩, ⟨⟨"a", "c:b"⟩, .zero, .epoch⟩] :=
  ⟨_, rfl, (isProperMap_iff _ _ rfl).mpr (by decide)⟩

/-- Two samples whose keys have one text. -/
def clashing : List TimingSample :=
  [⟨⟨"a:b", "c"⟩, ⟨1000000, by decide⟩, .epoch⟩, ⟨⟨"a", "b:c"⟩, ⟨2000000, by decide⟩, .epoch⟩]

/-- The summary of two keys has the same name twice, and only one of its members is ever found. -/
theorem clashing_not_isProperMap : ∃ a, ofSamples clashing = .ok a ∧ ¬ a.IsProperMap clashing ∧
    a.memberNames = ["a:b:c", "a:b:c"] ∧
    (Json.document (Json.Decoder.dictionary Json.Decoder.flatObject) a.value.bytes).map
      List.length = .ok 1 := by
  have hsamples : ∃ a, ofSamples clashing = .ok a ∧ a.memberNames = ["a:b:c", "a:b:c"] :=
    ⟨_, rfl, by decide⟩
  obtain ⟨a, ha, hnames⟩ := hsamples
  refine ⟨a, ha, fun hproper => ?_, hnames, ?_⟩
  · obtain ⟨members, hvalue, -, hnodup⟩ := hproper.members
    obtain rfl := Json.Value.object.inj hvalue
    rw [List.map_map] at hnodup
    change a.memberNames.Nodup at hnodup
    rw [hnames] at hnodup
    exact absurd hnodup (by decide)
  · rw [document_value (·.value.bytes) fun entry _ => entry.2.flatObject_reads]
    cases ha
    rfl

end TimingAggregate

end ProcessorHost
