import Mathlib.Data.List.TakeWhile
import Mathlib.Tactic.Common
import ProcessorHost.Http.Path
import ProcessorHost.Http.Resource
import ProcessorHost.Proofs.Text.Bytes

/-!
# Writing segments

Every text can be written as a segment of a path. However this is done, as long as all bytes
but the plain ones are escaped, the segment ends where it should and is read as that text.
-/

namespace ProcessorHost

namespace Http

/-- The signs that stand for themselves in a segment wherever they are. -/
def plainSigns : List UInt8 := "-._~!$&'()*+,;=:@".toList.map Json.ascii

/-- Besides these, letters and digits stand for themselves. -/
def isPlain (b : UInt8) : Bool :=
  (48 ≤ b && b ≤ 57) || (65 ≤ b && b ≤ 90) || (97 ≤ b && b ≤ 122) || plainSigns.contains b

/-- A segment that stands for some bytes: all that are not plain are escaped, and others may
be. -/
inductive Encodes : List UInt8 → List UInt8 → Prop
  | nil : Encodes [] []
  | plain {b : UInt8} {bytes segment : List UInt8} (hplain : isPlain b) :
      Encodes bytes segment → Encodes (b :: bytes) (b :: segment)
  | escaped {b high low : UInt8} {bytes segment : List UInt8}
      (hbyte : escaped? 37 high low = some b) :
      Encodes bytes segment → Encodes (b :: bytes) (37 :: high :: low :: segment)

lemma isPlain_of_hexValue? {b value : UInt8} (h : hexValue? b = some value) : isPlain b := by
  unfold hexValue? at h
  unfold isPlain
  split at h
  · rename_i hdigit
    simp [hdigit]
  · split at h
    · rename_i hupper
      have hle : b ≤ 90 := UInt8.le_trans hupper.2 (by decide)
      simp [hupper.1, hle]
    · split at h
      · rename_i hlower
        have hle : b ≤ 122 := UInt8.le_trans hlower.2 (by decide)
        simp [hlower.1, hle]
      · cases h

lemma escaped?_eq_some {high low b : UInt8} (h : escaped? 37 high low = some b) :
    (∃ value, hexValue? high = some value) ∧ ∃ value, hexValue? low = some value := by
  unfold escaped? at h
  rw [if_pos rfl] at h
  obtain ⟨value, hhigh, h⟩ := Option.bind_eq_some_iff.mp h
  obtain ⟨value', hlow, -⟩ := Option.bind_eq_some_iff.mp h
  exact ⟨⟨value, hhigh⟩, ⟨value', hlow⟩⟩

namespace Encodes

variable {bytes segment : List UInt8}

lemma isPlain_or (h : Encodes bytes segment) : ∀ b ∈ segment, isPlain b ∨ b = 37 := by
  induction h with
  | nil => nofun
  | plain hplain _ ih => exact List.forall_mem_cons.mpr ⟨.inl hplain, ih⟩
  | escaped hbyte _ ih =>
    obtain ⟨⟨value, hhigh⟩, ⟨value', hlow⟩⟩ := escaped?_eq_some hbyte
    simp only [List.forall_mem_cons]
    exact ⟨.inr trivial, .inl (isPlain_of_hexValue? hhigh), .inl (isPlain_of_hexValue? hlow), ih⟩

end Encodes

lemma percentDecode_cons_of_ne {b : UInt8} (hne : b ≠ 37) (segment : List UInt8) :
    percentDecode (b :: segment) = b :: percentDecode segment := by
  match segment with
  | [] => rfl
  | [_] => rfl
  | high :: low :: rest =>
    have hnone : escaped? b high low = none := if_neg hne
    rw [percentDecode, hnone]

lemma Encodes.percentDecode_eq {bytes segment : List UInt8} (h : Encodes bytes segment) :
    percentDecode segment = bytes := by
  induction h with
  | nil => rfl
  | plain hplain _ ih =>
    rename_i b bytes segment _
    have hne : b ≠ 37 := by
      rintro rfl
      exact absurd hplain (by decide)
    rw [percentDecode_cons_of_ne hne, ih]
  | escaped hbyte _ ih => rw [percentDecode, hbyte, ih]

lemma segmentText?_eq_some {s segment : String}
    (h : Encodes (Json.bytesOf s) (Json.bytesOf segment)) : segmentText? segment = some s := by
  unfold segmentText?
  rw [h.percentDecode_eq, Json.textOf?_bytesOf]

/-- A character that would end a segment is not in one. -/
lemma Encodes.not_mem {bytes : List UInt8} {segment : String} {c : Char} {b : UInt8}
    (h : Encodes bytes (Json.bytesOf segment)) (hone : String.utf8EncodeChar c = [b])
    (hends : isPlain b = false ∧ b ≠ 37) : c ∉ segment.toList := by
  intro hmem
  rcases h.isPlain_or b (Json.mem_bytesOf hone hmem) with hplain | hescape
  · rw [hends.1] at hplain
    cases hplain
  · exact hends.2 hescape

/-- A byte in a segment, escaped if it must be. -/
def encodedByte (b : UInt8) : List UInt8 :=
  if isPlain b then [b] else [37, Json.hexDigit (b / 16), Json.hexDigit (b % 16)]

/-- The segment for a text in which nothing is escaped that need not be. -/
def encoded (s : String) : String :=
  .ofList (((s.toList.flatMap String.utf8EncodeChar).flatMap encodedByte).map Char.ofUInt8)

example : encoded "a/b ü" = "a%2fb%20%c3%bc" := by decide

lemma hexValue?_hexDigit :
    ∀ n < 16, hexValue? (Json.hexDigit n) = some n ∧ Json.hexDigit n < 128 :=
  Json.forall_below (by decide)

lemma escaped?_hexDigit (b : UInt8) :
    escaped? 37 (Json.hexDigit (b / 16)) (Json.hexDigit (b % 16)) = some b := by
  obtain ⟨hhigh, hlow⟩ := Json.digits_lt b
  have hsum : 16 * (b / 16) + b % 16 = b := by
    apply UInt8.toNat_inj.mp
    have hb := b.toNat_lt
    simp
    omega
  unfold escaped?
  rw [if_pos rfl, (hexValue?_hexDigit _ hhigh).1, (hexValue?_hexDigit _ hlow).1]
  exact congrArg some hsum

lemma lt_of_isPlain {b : UInt8} (h : isPlain b) : b < 128 := by
  have hsigns : plainSigns.all (· < 128) := by decide
  unfold isPlain at h
  simp only [Bool.or_eq_true, Bool.and_eq_true, decide_eq_true_eq] at h
  rcases h with ((hdigit | hupper) | hlower) | hsign
  · exact UInt8.lt_of_le_of_lt hdigit.2 (by decide)
  · exact UInt8.lt_of_le_of_lt hupper.2 (by decide)
  · exact UInt8.lt_of_le_of_lt hlower.2 (by decide)
  · simpa using List.all_eq_true.mp hsigns b (List.contains_iff_mem.mp hsign)

lemma encodedByte_lt (b : UInt8) : ∀ c ∈ encodedByte b, c < 128 := by
  obtain ⟨hhigh, hlow⟩ := Json.digits_lt b
  unfold encodedByte
  split
  · rename_i hplain
    exact List.forall_mem_singleton.mpr (lt_of_isPlain hplain)
  · simp only [List.forall_mem_cons]
    exact ⟨by decide, (hexValue?_hexDigit _ hhigh).2, (hexValue?_hexDigit _ hlow).2, nofun⟩

lemma encodes_flatMap (bytes : List UInt8) : Encodes bytes (bytes.flatMap encodedByte) := by
  induction bytes with
  | nil => exact .nil
  | cons b bytes ih =>
    rw [List.flatMap_cons]
    unfold encodedByte
    split
    · rename_i hplain
      exact .plain hplain ih
    · exact .escaped (escaped?_hexDigit b) ih

/-- There is a segment for every text. -/
lemma encodes_encoded (s : String) : Encodes (Json.bytesOf s) (Json.bytesOf (encoded s)) := by
  have hascii : ∀ b ∈ (Json.bytesOf s).flatMap encodedByte, b < 128 := by
    intro b hb
    obtain ⟨c, -, hc⟩ := List.mem_flatMap.mp hb
    exact encodedByte_lt c b hc
  unfold encoded
  rw [← Json.bytesOf_eq, Json.bytesOf_map_ofUInt8 hascii]
  exact encodes_flatMap _

/-- The signs besides letters and digits that mean nothing anywhere in a target. -/
def unreservedSigns : List UInt8 := "-._~".toList.map Json.ascii

/-- Besides these, letters and digits are never escaped. -/
def isUnreserved (b : UInt8) : Bool :=
  (48 ≤ b && b ≤ 57) || (65 ≤ b && b ≤ 90) || (97 ≤ b && b ≤ 122) || unreservedSigns.contains b

/-- The segment for some bytes in which all are escaped but those that mean nothing in a target,
with digits of either case. -/
inductive EscapesReserved : List UInt8 → List UInt8 → Prop
  | nil : EscapesReserved [] []
  | unreserved {b : UInt8} {bytes segment : List UInt8} (hfree : isUnreserved b = true) :
      EscapesReserved bytes segment → EscapesReserved (b :: bytes) (b :: segment)
  | reserved {b high low : UInt8} {bytes segment : List UInt8} (hbound : isUnreserved b = false)
      (hbyte : escaped? 37 high low = some b) :
      EscapesReserved bytes segment → EscapesReserved (b :: bytes) (37 :: high :: low :: segment)

lemma isPlain_of_isUnreserved {b : UInt8} (h : isUnreserved b = true) : isPlain b = true := by
  have hsigns : unreservedSigns.all plainSigns.contains = true := by decide
  unfold isUnreserved at h
  unfold isPlain
  rw [Bool.or_eq_true] at h ⊢
  exact h.imp_right fun hsign =>
    List.all_eq_true.mp hsigns b (List.contains_iff_mem.mp hsign)

namespace EscapesReserved

lemma encodes {bytes segment : List UInt8} (h : EscapesReserved bytes segment) :
    Encodes bytes segment := by
  induction h with
  | nil => exact .nil
  | unreserved hfree _ ih => exact .plain (isPlain_of_isUnreserved hfree) ih
  | reserved _ hbyte _ ih => exact .escaped hbyte ih

/-- What needs no escaping is written as it is. -/
lemma of_unreserved {bytes : List UInt8} (h : bytes.all isUnreserved = true) :
    EscapesReserved bytes bytes := by
  induction bytes with
  | nil => exact .nil
  | cons b bytes ih =>
    rw [List.all_cons, Bool.and_eq_true] at h
    exact .unreserved h.1 (ih h.2)

lemma exists_ascii (bytes : List UInt8) :
    ∃ segment, EscapesReserved bytes segment ∧ ∀ b ∈ segment, b < 128 := by
  induction bytes with
  | nil => exact ⟨[], .nil, nofun⟩
  | cons b bytes ih =>
    obtain ⟨segment, hsegment, hascii⟩ := ih
    cases hfree : isUnreserved b with
    | true =>
      exact ⟨b :: segment, .unreserved hfree hsegment,
        List.forall_mem_cons.mpr ⟨lt_of_isPlain (isPlain_of_isUnreserved hfree), hascii⟩⟩
    | false =>
      obtain ⟨hhigh, hlow⟩ := Json.digits_lt b
      refine ⟨_, .reserved hfree (escaped?_hexDigit b) hsegment, ?_⟩
      simp only [List.forall_mem_cons]
      exact ⟨by decide, (hexValue?_hexDigit _ hhigh).2, (hexValue?_hexDigit _ hlow).2, hascii⟩

lemma exists_segment (s : String) :
    ∃ segment : String, EscapesReserved (Json.bytesOf s) (Json.bytesOf segment) := by
  obtain ⟨segment, hsegment, hascii⟩ := exists_ascii (Json.bytesOf s)
  refine ⟨.ofList (segment.map Char.ofUInt8), ?_⟩
  rwa [Json.bytesOf_map_ofUInt8 hascii]

end EscapesReserved

/-- A text that needs no escaping is the segment of no other text. -/
lemma Encodes.ne_of_unreserved {s segment fixed : String}
    (h : Encodes (Json.bytesOf s) (Json.bytesOf segment))
    (hfixed : (fixed.toList.flatMap String.utf8EncodeChar).all isUnreserved = true)
    (hne : s ≠ fixed) : segment ≠ fixed := by
  rintro rfl
  rw [← Json.bytesOf_eq] at hfixed
  have hread := segmentText?_eq_some (EscapesReserved.of_unreserved hfixed).encodes
  exact hne (Option.some.inj ((segmentText?_eq_some h).symm.trans hread))

namespace Request

variable {r : Request}

lemma path_eq_target (hslash : r.target.toList.head? = some '/')
    (hquery : '?' ∉ r.target.toList) (hfragment : '#' ∉ r.target.toList) : r.path = r.target := by
  have hpath : fromPath r.target.toList = r.target.toList := by
    obtain ⟨rest, hrest⟩ := List.head?_eq_some_iff.mp hslash
    rw [hrest]
    rfl
  unfold path
  rw [hpath, List.takeWhile_eq_self_iff.mpr, String.ofList_toList]
  intro c hc
  have hne : c ≠ '?' := fun heq => hquery (heq ▸ hc)
  have hne' : c ≠ '#' := fun heq => hfragment (heq ▸ hc)
  simp [hne, hne']

/-- A target with an escaped segment has no query and no fragment if the rest of it has none. -/
lemma path_eq_target_of_encodes {before segment after : String} {bytes : List UInt8}
    (htarget : r.target = before ++ segment ++ after)
    (hsegment : Encodes bytes (Json.bytesOf segment)) (hslash : before.toList.head? = some '/')
    (hrest : (before.toList ++ after.toList).all (fun c => c ≠ '?' && c ≠ '#') = true) :
    r.path = r.target := by
  have hquery : '?' ∉ segment.toList := hsegment.not_mem (b := 63) (by decide) (by decide)
  have hfragment : '#' ∉ segment.toList := hsegment.not_mem (b := 35) (by decide) (by decide)
  have hchars : r.target.toList = before.toList ++ segment.toList ++ after.toList := by
    rw [htarget, String.toList_append, String.toList_append]
  simp only [List.all_append, Bool.and_eq_true, List.all_eq_true, decide_eq_true_eq] at hrest
  apply path_eq_target
  · rw [hchars, List.append_assoc, List.head?_append, hslash]
    rfl
  · rw [hchars, List.mem_append, List.mem_append]
    rintro ((hmem | hmem) | hmem)
    · exact (hrest.1 _ hmem).1 rfl
    · exact hquery hmem
    · exact (hrest.2 _ hmem).1 rfl
  · rw [hchars, List.mem_append, List.mem_append]
    rintro ((hmem | hmem) | hmem)
    · exact (hrest.1 _ hmem).2 rfl
    · exact hfragment hmem
    · exact (hrest.2 _ hmem).2 rfl

end Request

namespace Resource

lemma ofPath?_process {segment : String} (hsegment : '/' ∉ segment.toList) :
    ofPath? ("/v1/processors/" ++ segment ++ "/process") = some (process segment) := by
  have hsplit : ("/v1/processors/" ++ segment ++ "/process").toList.splitOn '/' =
      [[], "v1".toList, "processors".toList, segment.toList, "process".toList] := by
    have htext : ("/v1/processors/" ++ segment ++ "/process").toList =
        [] ++ '/' :: ("v1".toList ++ '/' :: ("processors".toList ++ '/' ::
          (segment.toList ++ '/' :: "process".toList))) := by
      rw [String.toList_append, String.toList_append, List.append_assoc]
      rfl
    rw [htext, List.splitOn_append_cons_self_of_not_mem List.not_mem_nil,
      List.splitOn_append_cons_self_of_not_mem (by decide),
      List.splitOn_append_cons_self_of_not_mem (by decide),
      List.splitOn_append_cons_self_of_not_mem hsegment, List.splitOn_eq_singleton (by decide)]
  unfold ofPath?
  rw [hsplit]
  simp only [List.map_cons, List.map_nil, String.ofList_toList]

/-- The names below `/health` that are fixed. -/
def fixedNames : List String := ["live", "ready"]

lemma ofPath?_serviceHealth {segment : String} (hsegment : '/' ∉ segment.toList)
    (hempty : segment ≠ "") (hfixed : segment ∉ fixedNames) :
    ofPath? ("/health/" ++ segment) = some (serviceHealth segment) := by
  have hsplit : ("/health/" ++ segment).toList.splitOn '/' =
      [[], "health".toList, segment.toList] := by
    have htext : ("/health/" ++ segment).toList =
        [] ++ '/' :: ("health".toList ++ '/' :: segment.toList) := by
      rw [String.toList_append]
      rfl
    rw [htext, List.splitOn_append_cons_self_of_not_mem List.not_mem_nil,
      List.splitOn_append_cons_self_of_not_mem (by decide), List.splitOn_eq_singleton hsegment]
  have hlive : segment ≠ "live" := fun heq => hfixed (heq ▸ by decide)
  have hready : segment ≠ "ready" := fun heq => hfixed (heq ▸ by decide)
  unfold ofPath?
  rw [hsplit]
  simp only [List.map_cons, List.map_nil, String.ofList_toList, String.ofList_nil,
    String.isEmpty_iff, if_neg hempty]

end Resource

end Http

end ProcessorHost
