import Mathlib.Data.List.Basic
import ProcessorHost.Proofs.Text.Bytes

/-!
# Written values are texts

What a value is written with is well-formed as a text: signs with more than one byte are written as
they are, and what is escaped is written with signs of one byte. So a value has its bytes when it
is sent as a text.
-/

namespace ProcessorHost.Json

/-- Some bytes are those of a text. -/
def IsText (bytes : List UInt8) : Prop := ∃ s, bytesOf s = bytes

namespace IsText

variable {bytes bytes' : List UInt8}

lemma append (h : IsText bytes) (h' : IsText bytes') : IsText (bytes ++ bytes') := by
  obtain ⟨s, rfl⟩ := h
  obtain ⟨s', rfl⟩ := h'
  refine ⟨s ++ s', ?_⟩
  rw [bytesOf_eq, bytesOf_eq, bytesOf_eq, String.toList_append, List.flatMap_append]

lemma of_ascii (hascii : bytes.all (· < 128) = true) : IsText bytes := by
  simp only [List.all_eq_true, decide_eq_true_eq] at hascii
  exact ⟨_, bytesOf_map_ofUInt8 hascii⟩

lemma cons_ascii {b : UInt8} (hb : b < 128) (h : IsText bytes) : IsText (b :: bytes) := by
  have hone : IsText [b] := of_ascii (by simpa using hb)
  exact hone.append h

lemma flatMap {α : Type} {f : α → List UInt8} {items : List α}
    (h : ∀ item ∈ items, IsText (f item)) :
    IsText (items.flatMap f) := by
  induction items with
  | nil => exact ⟨"", bytesOf_eq ""⟩
  | cons item items ih =>
    obtain ⟨hitem, hitems⟩ := List.forall_mem_cons.mp h
    rw [List.flatMap_cons]
    exact hitem.append (ih hitems)

end IsText

lemma escapedByte_ascii : ∀ b < 128, (escapedByte b).all (· < 128) = true :=
  forall_below (by decide)

lemma escapedByte_of_le {b : UInt8} (hb : 128 ≤ b) : escapedByte b = [b] := by
  have hother {c : UInt8} (hc : c < 128) : b ≠ c := by
    rintro rfl
    exact UInt8.not_le.mpr hc hb
  have hcontrol : ¬ b < 32 := fun hlt => hother (UInt8.lt_trans hlt (by decide)) rfl
  unfold escapedByte
  rw [if_neg (hother (by decide)), if_neg (hother (by decide)), if_neg (hother (by decide)),
    if_neg (hother (by decide)), if_neg (hother (by decide)), if_neg (hother (by decide)),
    if_neg (hother (by decide)), if_neg hcontrol]

/-- A sign has one byte, or none of its bytes is that of another sign. -/
lemma utf8EncodeChar_ascii_or (c : Char) :
    (∀ b ∈ String.utf8EncodeChar c, b < 128) ∨ ∀ b ∈ String.utf8EncodeChar c, 128 ≤ b := by
  have hlimit : (128 : UInt8).toNat = 128 := rfl
  unfold String.utf8EncodeChar
  dsimp only
  split_ifs
  · left
    rw [List.forall_mem_singleton, UInt8.lt_iff_toNat_lt, UInt8.toNat_ofNat', hlimit]
    omega
  all_goals
    right
    simp only [List.forall_mem_cons, UInt8.le_iff_toNat_le, UInt8.toNat_ofNat', hlimit,
      List.not_mem_nil, false_imp_iff, implies_true, and_true]
    omega

lemma isText_flatMap_escapedByte (s : String) : IsText ((bytesOf s).flatMap escapedByte) := by
  rw [bytesOf_eq, List.flatMap_assoc]
  refine IsText.flatMap fun c _ => ?_
  rcases utf8EncodeChar_ascii_or c with hascii | hwide
  · refine IsText.of_ascii ?_
    rw [List.all_flatMap, List.all_eq_true]
    exact fun b hb => escapedByte_ascii b (hascii b hb)
  · have hsame : (String.utf8EncodeChar c).flatMap escapedByte = String.utf8EncodeChar c := by
      rw [List.flatMap_congr fun b hb => escapedByte_of_le (hwide b hb), List.flatMap_singleton']
    refine ⟨.singleton c, ?_⟩
    rw [hsame, bytesOf_eq]
    simp

lemma isText_textBytes (s : String) : IsText (textBytes s) :=
  .cons_ascii (by decide) ((isText_flatMap_escapedByte s).append (.of_ascii (by decide)))

lemma isText_joined {parts : List (List UInt8)} (h : ∀ part ∈ parts, IsText part) :
    IsText (joined parts) := by
  induction parts with
  | nil => exact .of_ascii (by decide)
  | cons part parts ih =>
    obtain ⟨hpart, hparts⟩ := List.forall_mem_cons.mp h
    cases parts with
    | nil => exact hpart
    | cons next parts => exact hpart.append (.cons_ascii (by decide) (ih hparts))

namespace Value

mutual

/-- The bytes of every value are those of a text. -/
theorem isText_bytes : ∀ v : Value, IsText v.bytes
  | null => ⟨_, rfl⟩
  | bool true => ⟨_, rfl⟩
  | bool false => ⟨_, rfl⟩
  | number _ => ⟨_, rfl⟩
  | text s => isText_textBytes s
  | array items =>
    .cons_ascii (by decide) ((isText_joined (isText_itemBytes items)).append
      (.of_ascii (by decide)))
  | object members =>
    .cons_ascii (by decide) ((isText_joined (isText_memberList members)).append
      (.of_ascii (by decide)))

lemma isText_itemBytes : ∀ items : List Value, ∀ part ∈ itemBytes items, IsText part
  | [] => nofun
  | item :: rest => List.forall_mem_cons.mpr ⟨isText_bytes item, isText_itemBytes rest⟩

lemma isText_memberList : ∀ members : Members, ∀ part ∈ memberList members, IsText part
  | [] => nofun
  | (key, value) :: rest =>
    List.forall_mem_cons.mpr
      ⟨(isText_textBytes key).append (.cons_ascii (by decide) (isText_bytes value)),
        isText_memberList rest⟩

end

/-- Nothing of a value is lost when it is made a text. -/
theorem bytesOf_written (v : Value) : bytesOf v.written = v.bytes := by
  obtain ⟨s, hs⟩ := v.isText_bytes
  unfold written
  rw [← hs, textOf?_bytesOf, Option.getD_some]

end Value

end ProcessorHost.Json
