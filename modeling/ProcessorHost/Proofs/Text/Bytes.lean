import Mathlib.Tactic.Common
import ProcessorHost.Json.Printer

/-!
# Bytes of texts

The bytes of a text are those of its signs one after the other, and they are read as that text.
-/

namespace ProcessorHost.Json

lemma toList_loop_eq (bytes : ByteArray) (i : Nat) (before : List UInt8) :
    ByteArray.toList.loop bytes i before = before.reverse ++ bytes.data.toList.drop i := by
  induction i, before using ByteArray.toList.loop.induct bytes with
  | case1 i before hlt ih =>
    have hget : bytes.get! i = bytes.data.toList[i] := getElem!_pos bytes.data i hlt
    rw [ByteArray.toList.loop, if_pos hlt, ih, List.drop_eq_getElem_cons hlt, hget,
      List.reverse_cons, List.append_assoc, List.singleton_append]
  | case2 i before hge =>
    have hend : bytes.data.toList.length ≤ i := Nat.le_of_not_lt hge
    rw [ByteArray.toList.loop, if_neg hge, List.drop_eq_nil_of_le hend, List.append_nil]

lemma bytesOf_eq_data (s : String) : bytesOf s = s.toByteArray.data.toList :=
  toList_loop_eq s.toByteArray 0 []

lemma bytesOf_ofList_cons (c : Char) (chars : List Char) :
    bytesOf (String.ofList (c :: chars)) =
      String.utf8EncodeChar c ++ bytesOf (String.ofList chars) := by
  rw [bytesOf_eq_data, bytesOf_eq_data, String.toByteArray_ofList, String.toByteArray_ofList,
    List.utf8Encode_cons, ByteArray.data_append, Array.toList_append, List.utf8Encode_singleton,
    List.toList_data_toByteArray]

lemma bytesOf_eq (s : String) : bytesOf s = s.toList.flatMap String.utf8EncodeChar := by
  have hchars (chars : List Char) :
      bytesOf (String.ofList chars) = chars.flatMap String.utf8EncodeChar := by
    induction chars with
    | nil => exact bytesOf_eq_data ""
    | cons c chars ih => rw [bytesOf_ofList_cons, ih, List.flatMap_cons]
  rw [← hchars, String.ofList_toList]

lemma mem_bytesOf {s : String} {c : Char} {b : UInt8} (hone : String.utf8EncodeChar c = [b])
    (hmem : c ∈ s.toList) : b ∈ bytesOf s := by
  rw [bytesOf_eq, List.mem_flatMap]
  exact ⟨c, hmem, hone ▸ List.mem_singleton_self b⟩

lemma textOf?_bytesOf (s : String) : textOf? (bytesOf s) = some s := by
  have hbytes : (⟨(bytesOf s).toArray⟩ : ByteArray) = s.toByteArray := by
    rw [bytesOf_eq_data]
  unfold textOf? String.fromUTF8?
  rw [hbytes, dif_pos s.isValidUTF8]
  rfl

lemma utf8EncodeChar_ofUInt8 {b : UInt8} (hb : b < 128) :
    String.utf8EncodeChar (Char.ofUInt8 b) = [b] := by
  have hle : (Char.ofUInt8 b).val ≤ 127 := by
    rw [UInt32.le_iff_toNat_le]
    exact Nat.le_of_lt_succ hb
  rw [String.utf8EncodeChar_eq_singleton (Char.utf8Size_eq_one_iff.mpr hle)]
  exact congrArg (fun c => [c]) b.toUInt8_toUInt32

lemma bytesOf_map_ofUInt8 {bytes : List UInt8} (hascii : ∀ b ∈ bytes, b < 128) :
    bytesOf (.ofList (bytes.map Char.ofUInt8)) = bytes := by
  induction bytes with
  | nil => exact bytesOf_eq ""
  | cons b bytes ih =>
    obtain ⟨hb, hbytes⟩ := List.forall_mem_cons.mp hascii
    rw [List.map_cons, bytesOf_ofList_cons, utf8EncodeChar_ofUInt8 hb, ih hbytes,
      List.singleton_append]

/-- What holds of the bytes below a bound one by one holds of all of them. -/
lemma forall_below {P : UInt8 → Prop} {bound : UInt8}
    (h : ∀ k : Fin bound.toNat, P (.ofNat k)) : ∀ b < bound, P b := by
  intro b hb
  have hk := h ⟨b.toNat, hb⟩
  rwa [UInt8.ofNat_toNat] at hk

lemma digits_lt (b : UInt8) : b / 16 < 16 ∧ b % 16 < 16 := by
  have hb := b.toNat_lt
  constructor
  · rw [UInt8.lt_iff_toNat_lt, UInt8.toNat_div]
    simp
    omega
  · rw [UInt8.lt_iff_toNat_lt, UInt8.toNat_mod]
    simp
    omega

end ProcessorHost.Json
