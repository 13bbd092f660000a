import ProcessorHost.Proofs.Json.Values

/-!
# Records written and read back

A record is read back from an object if each of its fields is read back from the member with its
name. What every reading of a field keeps holds of every record that is read.
-/

namespace ProcessorHost.Json

section Parts

variable {α β : Type} {size room : Nat} {item : Decoder α}

lemma string_readsBack (lim : Limits) (s : String) :
    Decoder.string.ReadsBack lim (.text s) s := by
  intro tail hsize _
  rw [text_bytes]
  exact text_read hsize

/-- A natural number is read back if it is below the bound, which must have 64 bits itself. -/
lemma natural_readsBack {bound n : Nat} (hn : n < bound) (hbound : bound ≤ significandLimit)
    (expected : String) (lim : Limits) :
    (Decoder.naturalBelow bound expected).ReadsBack lim (.natural n) n := by
  intro tail _ hends
  have hlimit : significandLimit = 0x10000000000000000 := rfl
  have hfits : (Number.integer n).Fits := ⟨by omega, by omega⟩
  obtain ⟨b, later, hbytes, hb⟩ := written_begins hfits
  obtain ⟨hbegin, hspace, -⟩ := begins_integer hb
  have hread := number_written hends hfits
  change Decoder.naturalBelow bound expected lim (bytesOf (Number.integer n).written ++ tail) = _
  rw [hbytes] at hread ⊢
  rw [List.cons_append] at hread ⊢
  unfold Decoder.naturalBelow
  rw [skipSpace_begins hspace]
  dsimp only
  rw [if_pos hbegin, hread]
  exact if_pos ⟨Int.natCast_nonneg n, hn⟩

/-- An array is read back if its items are. -/
lemma list_readsBack (content : β → Value) (read : β → α) {entries : List β}
    (hreads : ∀ e ∈ entries, item.ReadsBack ⟨size, room⟩ (content e) (read e))
    (hbegins : ∀ e ∈ entries, Begins (content e).bytes) :
    (Decoder.list item).ReadsBack ⟨size, room + 1⟩ (.array (entries.map content))
      (entries.map read) := by
  intro tail hsize _
  rw [array_bytes] at hsize ⊢
  exact arrayOf_items content read hreads hbegins tail (Nat.le_of_succ_le hsize)

/-- An object is read back as a table if its contents are. -/
lemma dictionary_readsBack (content : α → Value) {table : List (String × α)}
    (hkeys : Keyed.Increasing table)
    (hreads : ∀ entry ∈ table, item.ReadsBack ⟨size, room⟩ (content entry.2) entry.2) :
    (Decoder.dictionary item).ReadsBack ⟨size, room + 1⟩
      (.object (table.map fun entry => (entry.1, content entry.2))) table := by
  intro tail hsize _
  have hread := dictionary_object Prod.fst (fun entry => content entry.2) Prod.snd
    (fun entry hentry => (hreads entry hentry).readsUnder) tail hsize
  rwa [List.map_id', hkeys.ofList_eq] at hread

/-- What is read where something else was expected is refused. -/
lemma mismatch_ne_ok {lim : Limits} {expected : String} {s : List UInt8} {x : α} :
    mismatch lim expected s ≠ .ok x := by
  intro h
  obtain ⟨_, -, heq⟩ := exists_of_bind_eq_ok h
  cases heq

/-- What is read as a table is one. -/
lemma isTable_of_dictionary {P : α → Prop}
    (hitem : ∀ s x rest, item ⟨size, room⟩ s = .ok (x, rest) → P x) {s rest : List UInt8}
    {table : List (String × α)}
    (h : Decoder.dictionary item ⟨size, room + 1⟩ s = .ok (table, rest)) : IsTable P table := by
  unfold Decoder.dictionary at h
  split at h
  · cases h
  · split at h
    · exact objectOf_isTable hitem h
    · exact absurd h mismatch_ne_ok

end Parts

namespace RecordShape

variable {σ α β γ : Type} {shape : RecordShape σ α} {size room : Nat} {s rest : List UInt8}

section Written

variable {lim : Limits} {draft next last : σ} {members : Members}

/-- A field that is not filled is filled from the member with its name. -/
lemma takes_field {name : String} {get : σ → Option β} {set : σ → Option β → σ}
    {decoder : Decoder β} {optional : Bool}
    (hfind : shape.fields.find? (fun field => field.name = name) =
      some (.of name get set decoder optional))
    (hopen : get draft = none) {v : Value} {x : β} (hreads : decoder.ReadsBack lim v x)
    (hlater : Takes lim.size (shape.readMember lim) (set draft (some x)) members last) :
    Takes lim.size (shape.readMember lim) draft ((name, v) :: members) last := by
  refine .cons (fun tail hsize hends => ?_) hlater
  have hfill : (FieldSpec.of name get set decoder optional).fill draft lim (v.bytes ++ tail) =
      .ok (set draft (some x), tail) := by
    change ((decoder lim (v.bytes ++ tail)).bind fun read =>
      .ok (set draft (some read.1), read.2)) = _
    rw [hreads.readsUnder tail hsize hends]
    rfl
  have hfilled : (FieldSpec.of name get set decoder optional).filled draft = false := by
    change (get draft).isSome = false
    rw [hopen]
    rfl
  unfold readMember
  rw [hfind]
  dsimp only
  rw [hfilled, if_neg Bool.false_ne_true]
  exact memberValue_colon name hfill

/-- A record is read back from an object whose members fill all that is needed to finish it. -/
lemma readsBack_of_takes
    (htakes : Takes size (shape.readMember ⟨size, room⟩) shape.empty members last) {a : α}
    (hfinish : shape.finish last = .ok a) :
    Decoder.ReadsBack ⟨size, room + 1⟩ shape.decoder (.object members) a := by
  intro tail hsize _
  rw [object_bytes] at hsize ⊢
  have hread := mapEntries_takes htakes tail true (size + 1)
    (Nat.le_succ_of_le (Nat.le_of_succ_le hsize)) (Nat.le_of_succ_le hsize)
  have hbrace (s : List UInt8) : shape.decoder ⟨size, room + 1⟩ (ascii '\x7b' :: s) =
      (mapEntries size (shape.readMember ⟨size, room⟩) shape.empty true (size + 1) s).bind
        fun read => (shape.finish read.1).bind fun a =>
          (endOfMap read.2).bind fun after => .ok (a, after.2) := rfl
  rw [hbrace, hread]
  change ((shape.finish last).bind fun a => _) = _
  rw [hfinish]
  rfl

end Written

section Invariant

variable {Inv : σ → Prop}

lemma readMember_invariant
    (hfill : ∀ field ∈ shape.fields, ∀ draft s next rest, Inv draft →
      field.fill draft ⟨size, room⟩ s = .ok (next, rest) → Inv next)
    {draft next : σ} {key : String} (hdraft : Inv draft)
    (h : shape.readMember ⟨size, room⟩ draft key s = .ok (next, rest)) : Inv next := by
  unfold readMember at h
  split at h
  · rename_i field hfind
    split at h
    · cases h
    · obtain ⟨s', hread⟩ := read_of_memberValue h
      exact hfill field (List.mem_of_find?_eq_some hfind) _ _ _ _ hdraft hread
  · split at h
    · cases h
    · obtain ⟨_, -, heq⟩ := exists_of_bind_eq_ok h
      cases heq
      exact hdraft

lemma readItems_invariant {fields : List (FieldSpec σ)}
    (hfill : ∀ field ∈ fields, ∀ draft s next rest, Inv draft →
      field.fill draft ⟨size, room⟩ s = .ok (next, rest) → Inv next)
    {draft next : σ} {first : Bool} {n : Nat} (hdraft : Inv draft)
    (h : shape.readItems ⟨size, room⟩ draft first n fields s = .ok (next, rest)) : Inv next := by
  induction fields generalizing draft first n s with
  | nil =>
    cases h
    exact hdraft
  | cons field fields ih =>
    obtain ⟨hfirst, hlater⟩ := List.forall_mem_cons.mp hfill
    unfold readItems at h
    split at h
    · cases h
    · split at h
      · cases h
      · rename_i hread
        exact ih hlater (hfirst _ _ _ _ hdraft (eq_ok_of_within hread)) h
    · split at h
      · exact ih hlater hdraft h
      · cases h

/-- Whatever every field keeps that is filled holds when a record is finished, from an object as
from an array. -/
theorem exists_draft_of_decoder (hempty : Inv shape.empty)
    (hfill : ∀ field ∈ shape.fields, ∀ draft s next rest, Inv draft →
      field.fill draft ⟨size, room⟩ s = .ok (next, rest) → Inv next) {a : α}
    (h : shape.decoder ⟨size, room + 1⟩ s = .ok (a, rest)) :
    ∃ draft, Inv draft ∧ shape.finish draft = .ok a := by
  unfold decoder at h
  split at h
  · cases h
  · split at h
    · obtain ⟨⟨draft, s'⟩, hentries, h⟩ := exists_of_bind_eq_ok h
      obtain ⟨a', hfinish, h⟩ := exists_of_bind_eq_ok h
      obtain ⟨_, -, heq⟩ := exists_of_bind_eq_ok h
      cases heq
      exact ⟨draft, mapEntries_invariant Inv (fun _ _ _ _ _ => readMember_invariant hfill) hempty
        hentries, hfinish⟩
    · split at h
      · obtain ⟨⟨draft, s'⟩, hitems, h⟩ := exists_of_bind_eq_ok h
        obtain ⟨a', hfinish, h⟩ := exists_of_bind_eq_ok h
        obtain ⟨_, -, heq⟩ := exists_of_bind_eq_ok h
        cases heq
        exact ⟨draft, readItems_invariant hfill hempty hitems, hfinish⟩
      · exact absurd h mismatch_ne_ok

end Invariant

end RecordShape

end ProcessorHost.Json
