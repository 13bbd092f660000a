import ProcessorHost.Proofs.Json.Records
import ProcessorHost.Wire

/-!
# Data types written and read back

Whatever text a value of one of the data types was read from, the value is read again from the text
that is written for it. For most types this holds of all values. The metadata of an event and the
parameters of a request must be in the order of their names, as those that were read are, and no
binary number may stand among the parameters.
-/

namespace ProcessorHost

open Json

/-- The text that is written for what a text is read as. -/
def rewritten {α : Type} (decoder : Decoder α) (value : α → Value) (s : List UInt8) :
    Except Failure String :=
  (readDocument decoder s).map fun x => (value x).written

/-- A value can be written, and nothing is lost by it. -/
structure Restored {α : Type} (decoder : Decoder α) (value : α → Value) (x : α) : Prop where
  /-- The value is written as a text. -/
  written : textOf? (value x).bytes = some (value x).written
  /-- The text is read as the value. -/
  read : readDocument decoder (bytesOf (value x).written) = .ok x
  /-- The text is written again for what it is read as. -/
  stable : rewritten decoder value (bytesOf (value x).written) = .ok (value x).written

lemma restored_of_readsBack {α : Type} {decoder : Decoder α} {value : α → Value} {x : α}
    (h : ∀ size, decoder.ReadsBack ⟨size, Limits.depth⟩ (value x) x) :
    Restored decoder value x := by
  have hread : readDocument decoder (bytesOf (value x).written) = .ok x := by
    have hall := h (value x).bytes.length [] (by rw [List.append_nil]) nofun
    rw [List.append_nil] at hall
    rw [Value.bytesOf_written]
    exact document_eq hall
  constructor
  case written =>
    have htext := textOf?_bytesOf (value x).written
    rwa [Value.bytesOf_written] at htext
  case read => exact hread
  case stable =>
    unfold rewritten
    rw [hread]
    rfl

/-- A document that is read begins with what was read. -/
lemma exists_of_readDocument {α : Type} {decoder : Decoder α} {s : List UInt8} {x : α}
    (h : readDocument decoder s = .ok x) :
    ∃ rest, decoder ⟨s.length, Limits.depth⟩ s = .ok (x, rest) := by
  obtain ⟨⟨x', rest⟩, hread, hend⟩ := exists_of_bind_eq_ok h
  obtain ⟨_, -, heq⟩ := exists_of_bind_eq_ok hend
  cases heq
  exact ⟨rest, hread⟩

namespace Pair

variable {α β γ : Type} {shape : RecordShape (Pair α β) γ} {size room : Nat}
  {firstName secondName : String} {firstDecoder : Decoder α} {secondDecoder : Decoder β}
  {optional : Bool}

/-- A record of two fields is read back if both of them are. -/
lemma readsBack
    (hfields : shape.fields =
      [firstField firstName firstDecoder, secondField secondName secondDecoder optional])
    (hempty : shape.empty = empty) (hnames : firstName ≠ secondName) {v w : Value} {x : α} {y : β}
    (hfirst : firstDecoder.ReadsBack ⟨size, room⟩ v x)
    (hsecond : secondDecoder.ReadsBack ⟨size, room⟩ w y) {c : γ}
    (hfinish : shape.finish ⟨some x, some y⟩ = .ok c) :
    Decoder.ReadsBack ⟨size, room + 1⟩ shape.decoder
      (.object [(firstName, v), (secondName, w)]) c := by
  have hfindFirst : shape.fields.find? (fun field => field.name = firstName) =
      some (firstField firstName firstDecoder) := by
    rw [hfields]
    exact List.find?_cons_of_pos (decide_eq_true rfl)
  have hfindSecond : shape.fields.find? (fun field => field.name = secondName) =
      some (secondField secondName secondDecoder optional) := by
    have hother : (firstField (β := β) firstName firstDecoder).name ≠ secondName := hnames
    rw [hfields, List.find?_cons_of_neg]
    · exact List.find?_cons_of_pos (decide_eq_true rfl)
    · exact mt of_decide_eq_true hother
  refine RecordShape.readsBack_of_takes ?_ hfinish
  rw [hempty]
  exact RecordShape.takes_field hfindFirst rfl hfirst
    (RecordShape.takes_field hfindSecond rfl hsecond (.nil _))

/-- What holds of all that is read as the second field holds of the second field of a record. -/
lemma exists_of_decoder {P : β → Prop}
    (hfields : shape.fields =
      [firstField firstName firstDecoder, secondField secondName secondDecoder optional])
    (hempty : shape.empty = empty)
    (hsecond : ∀ s y rest, secondDecoder ⟨size, room⟩ s = .ok (y, rest) → P y)
    {s rest : List UInt8} {c : γ} (h : shape.decoder ⟨size, room + 1⟩ s = .ok (c, rest)) :
    ∃ x y, (∀ z, y = some z → P z) ∧ shape.finish ⟨x, y⟩ = .ok c := by
  have hdraft : ∃ draft : Pair α β, (∀ z, draft.second = some z → P z) ∧
      shape.finish draft = .ok c := by
    refine RecordShape.exists_draft_of_decoder (by rw [hempty]; exact nofun) ?_ h
    rw [hfields]
    intro field hfield draft s next rest hdraft hfill
    rcases List.mem_pair.mp hfield with rfl | rfl
    · obtain ⟨⟨x, s'⟩, -, heq⟩ := exists_of_bind_eq_ok hfill
      cases heq
      exact hdraft
    · obtain ⟨⟨y, s'⟩, hread, heq⟩ := exists_of_bind_eq_ok hfill
      cases heq
      intro z hz
      cases hz
      exact hsecond _ _ _ hread
  obtain ⟨⟨x, y⟩, hy, hfinish⟩ := hdraft
  exact ⟨x, y, hy, hfinish⟩

end Pair

section Written

variable (size room : Nat)

lemma Event.readsBack {e : Event} (h : Keyed.Increasing e.metadata) :
    Event.decoder.ReadsBack ⟨size, room + 2⟩ e.value e := by
  have hmetadata := dictionary_readsBack Value.text h fun entry _ =>
    string_readsBack ⟨size, room⟩ entry.2
  exact Pair.readsBack rfl rfl (by decide) (string_readsBack _ e.id) hmetadata rfl

lemma ProcessorIdentity.readsBack (i : ProcessorIdentity) :
    ProcessorIdentity.decoder.ReadsBack ⟨size, room + 1⟩ i.value i :=
  Pair.readsBack rfl rfl (by decide) (string_readsBack _ i.name) (string_readsBack _ i.id) rfl

lemma TimingKey.readsBack (k : TimingKey) :
    TimingKey.decoder.ReadsBack ⟨size, room + 1⟩ k.value k :=
  Pair.readsBack rfl rfl (by decide) (string_readsBack _ k.context)
    (string_readsBack _ k.stopwatch) rfl

lemma Health.readsBack (h : Health) (lim : Limits) : Health.decoder.ReadsBack lim h.value h := by
  intro tail hsize _
  have hquote (s : List UInt8) : Health.decoder lim (ascii '"' :: s) =
      (Json.text lim.size s).bind fun read =>
        (Health.named read.1).bind fun h => .ok (h, read.2) := rfl
  have hnamed : Health.named h.name = .ok h := by
    cases h with
    | unknown => rfl
    | serving => rfl
    | notServing => rfl
  rw [Health.value, text_bytes, hquote, text_read hsize]
  change ((Health.named h.name).bind fun h => .ok (h, tail)) = _
  rw [hnamed]
  rfl

lemma wholeNanos_split {n seconds : Nat} (hn : n < seconds * 1000000000)
    (hseconds : seconds ≤ 0x10000000000000000) (what : String) :
    wholeNanos what (n / 1000000000) (n % 1000000000) = .ok n := by
  unfold wholeNanos
  rw [if_pos (by omega), Nat.div_add_mod']

lemma nanosOf_readsBack (n : Nat) (lim : Limits) :
    Decoder.word32.ReadsBack lim (.natural (n % 1000000000)) (n % 1000000000) :=
  natural_readsBack (by omega) (by decide) _ lim

lemma secondsOf_readsBack {n : Nat} (hn : n < 0x10000000000000000 * 1000000000) (lim : Limits) :
    Decoder.word64.ReadsBack lim (.natural (n / 1000000000)) (n / 1000000000) :=
  natural_readsBack (by omega) (by decide) _ lim

lemma Span.readsBack (d : Span) : Span.decoder.ReadsBack ⟨size, room + 1⟩ d.value d := by
  have hfinish : Span.shape.finish ⟨some d.seconds, some d.subsecond⟩ = .ok d := by
    have hwhole := wholeNanos_split d.nanos_lt (Nat.le_refl _) "Duration"
    change (wholeNanos "Duration" d.seconds d.subsecond >>= _) = _
    unfold seconds subsecond
    rw [hwhole]
    have hspan : ofNanosOrMax d.nanos = d := dif_pos d.nanos_lt
    exact congrArg Except.ok hspan
  exact Pair.readsBack rfl rfl (by decide) (secondsOf_readsBack d.nanos_lt _)
    (nanosOf_readsBack d.nanos _) hfinish

lemma Timestamp.readsBack (t : Timestamp) :
    Timestamp.decoder.ReadsBack ⟨size, room + 1⟩ t.value t := by
  have hlimit : t.nanos < 0x10000000000000000 * 1000000000 :=
    Nat.lt_trans t.nanos_lt (by decide)
  have hnanos : Decoder.ReadsBack ⟨size, room + 1⟩ Timestamp.shape.decoder t.value t.nanos :=
    Pair.readsBack rfl rfl (by decide) (secondsOf_readsBack hlimit _) (nanosOf_readsBack t.nanos _)
      (wholeNanos_split t.nanos_lt (by decide) _)
  intro tail hsize hends
  have htimestamp : ofNanos? t.nanos = some t := dif_pos t.nanos_lt
  unfold decoder
  rw [hnanos tail hsize hends]
  dsimp only [bind, Except.bind]
  rw [htimestamp]

lemma TimingSample.readsBack (s : TimingSample) :
    TimingSample.decoder.ReadsBack ⟨size, room + 2⟩ s.value s :=
  RecordShape.readsBack_of_takes
    (RecordShape.takes_field rfl rfl (s.key.readsBack size room)
      (RecordShape.takes_field rfl rfl (s.duration.readsBack size room)
        (RecordShape.takes_field rfl rfl (s.observedAt.readsBack size room) (.nil _)))) rfl

lemma Registration.readsBack (r : Registration) :
    Registration.decoder.ReadsBack ⟨size, room + 2⟩ r.value r := by
  have htags : (Decoder.list .string).ReadsBack ⟨size, room + 1⟩ (.array (r.tags.map .text))
      (r.tags.map id) :=
    list_readsBack .text id (fun tag _ => string_readsBack _ tag) fun tag _ => begins_text tag
  rw [List.map_id] at htags
  exact RecordShape.readsBack_of_takes
    (RecordShape.takes_field rfl rfl (string_readsBack _ r.serviceName)
      (RecordShape.takes_field rfl rfl (string_readsBack _ r.uniqueServiceId)
        (RecordShape.takes_field rfl rfl (string_readsBack _ r.address)
          (RecordShape.takes_field rfl rfl htags (.nil _))))) rfl

lemma ProcessRequest.readsBack {r : ProcessRequest}
    (htable : IsTable (Value.Readable room) r.params) (hexact : ∀ param ∈ r.params, param.2.Exact) :
    ProcessRequest.decoder.ReadsBack ⟨size, room + 2⟩ r.value r := by
  have hparams := dictionary_readsBack id
    htable.increasing fun param hparam =>
      any_readsBack (htable.contents param hparam) (hexact param hparam) size
  have hsame : (r.params.map fun param => (param.1, id param.2)) = r.params := List.map_id _
  rw [hsame] at hparams
  exact Pair.readsBack rfl rfl (by decide) (string_readsBack _ r.eventId) hparams rfl

end Written

section Read

variable {size : Nat} (room : Nat) {s rest : List UInt8}

lemma Event.increasing_of_decoder {e : Event}
    (h : Event.decoder ⟨size, room + 2⟩ s = .ok (e, rest)) : Keyed.Increasing e.metadata := by
  obtain ⟨id, metadata, hmetadata, hfinish⟩ := Pair.exists_of_decoder rfl rfl
    (fun _ _ _ => isTable_of_dictionary (P := fun _ => True) fun _ _ _ _ => trivial) h
  obtain ⟨id', -, heq⟩ := exists_of_bind_eq_ok hfinish
  cases heq
  cases metadata with
  | none => exact List.Pairwise.nil
  | some metadata => exact (hmetadata metadata rfl).increasing

lemma ProcessRequest.isTable_of_decoder {r : ProcessRequest}
    (h : ProcessRequest.decoder ⟨size, room + 2⟩ s = .ok (r, rest)) :
    IsTable (Value.Readable room) r.params := by
  obtain ⟨id, params, hparams, hfinish⟩ := Pair.exists_of_decoder rfl rfl
    (fun _ _ _ => isTable_of_dictionary fun _ _ _ => readable_of_value) h
  obtain ⟨id', -, heq⟩ := exists_of_bind_eq_ok hfinish
  cases heq
  cases params with
  | none => exact ⟨List.Pairwise.nil, fun _ hmember => absurd hmember List.not_mem_nil⟩
  | some params => exact hparams params rfl

end Read

/-- Whatever is read as one of the data types is restored from what is written for it. -/
structure WireTypesRestored : Prop where
  event : ∀ s e, readDocument Event.decoder s = .ok e → Restored Event.decoder Event.value e
  identity : ∀ s i, readDocument ProcessorIdentity.decoder s = .ok i →
    Restored ProcessorIdentity.decoder ProcessorIdentity.value i
  health : ∀ s h, readDocument Health.decoder s = .ok h → Restored Health.decoder Health.value h
  registration : ∀ s r, readDocument Registration.decoder s = .ok r →
    Restored Registration.decoder Registration.value r
  timingKey : ∀ s k, readDocument TimingKey.decoder s = .ok k →
    Restored TimingKey.decoder TimingKey.value k
  timingSample : ∀ s t, readDocument TimingSample.decoder s = .ok t →
    Restored TimingSample.decoder TimingSample.value t
  /-- The parameters of a request may be nested, but have no binary number anywhere. -/
  request : ∀ s r, readDocument ProcessRequest.decoder s = .ok r →
    (∀ param ∈ r.params, param.2.Exact) → Restored ProcessRequest.decoder ProcessRequest.value r

theorem wire_types_restored : WireTypesRestored where
  event s e h := by
    obtain ⟨rest, hread⟩ := exists_of_readDocument h
    have hkeys := Event.increasing_of_decoder 125 hread
    exact restored_of_readsBack fun size => Event.readsBack size 125 hkeys
  identity s i _ := restored_of_readsBack fun size => i.readsBack size 126
  health s h _ := restored_of_readsBack fun size => h.readsBack _
  registration s r _ := restored_of_readsBack fun size => r.readsBack size 125
  timingKey s k _ := restored_of_readsBack fun size => k.readsBack size 126
  timingSample s t _ := restored_of_readsBack fun size => t.readsBack size 125
  request s r h hexact := by
    obtain ⟨rest, hread⟩ := exists_of_readDocument h
    have htable := ProcessRequest.isTable_of_decoder 125 hread
    exact restored_of_readsBack fun size => ProcessRequest.readsBack size 125 htable hexact

end ProcessorHost
