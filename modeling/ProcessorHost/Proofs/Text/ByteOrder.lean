import ProcessorHost.Proofs.Text.Bytes

/-!
# The order of texts

Texts are compared sign by sign. Their bytes are in the same order: of two signs the lesser one
has no more bytes, a sign with more bytes begins with a greater one, and with as many bytes the
first that is not the same is less.
-/

namespace ProcessorHost.Json

lemma toNat_lt_of_isValidChar (c : Char) : c.val.toNat < 0x110000 := by
  have hvalid := c.valid
  unfold UInt32.isValidChar Nat.isValidChar at hvalid
  omega

/-- The first byte of a sign tells how many bytes it has. -/
lemma utf8EncodeChar_head (c : Char) : ∃ first rest, String.utf8EncodeChar c = first :: rest ∧
    (c.val.toNat ≤ 127 ↔ first.toNat < 192) ∧ (c.val.toNat ≤ 2047 ↔ first.toNat < 224) ∧
    (c.val.toNat ≤ 65535 ↔ first.toNat < 240) := by
  have hvalid := toNat_lt_of_isValidChar c
  unfold String.utf8EncodeChar
  dsimp only
  split
  · refine ⟨_, _, rfl, ?_⟩
    rw [UInt8.toNat_ofNat']
    omega
  · split
    · refine ⟨_, _, rfl, ?_⟩
      rw [UInt8.toNat_ofNat']
      omega
    · split
      · refine ⟨_, _, rfl, ?_⟩
        rw [UInt8.toNat_ofNat']
        omega
      · refine ⟨_, _, rfl, ?_⟩
        rw [UInt8.toNat_ofNat']
        omega

lemma cons_ofNat_lt {m n : Nat} {rest rest' : List UInt8} (hm : m < 256) (hn : n < 256) :
    UInt8.ofNat m :: rest < UInt8.ofNat n :: rest' ↔ m < n ∨ m = n ∧ rest < rest' := by
  rw [List.cons_lt_cons_iff, UInt8.lt_iff_toNat_lt, ← UInt8.toNat_inj, UInt8.toNat_ofNat',
    UInt8.toNat_ofNat', Nat.mod_eq_of_lt hm, Nat.mod_eq_of_lt hn]

/-- The digits of a number with up to four of them, and what they are worth. -/
lemma eq_of_digits (v : Nat) :
    v = v / 262144 * 262144 + v / 4096 % 64 * 4096 + v / 64 % 64 * 64 + v % 64 := by
  have hquarter : v / 64 / 64 = v / 4096 := Nat.div_div_eq_div_mul v 64 64
  have heighth : v / 4096 / 64 = v / 262144 := Nat.div_div_eq_div_mul v 4096 64
  omega

/-- Of two signs with as many bytes the lesser one comes first. -/
lemma utf8EncodeChar_lt_of_same {c d : Char} (h : c < d)
    (hsame : c.val.toNat ≤ 127 ∧ d.val.toNat ≤ 127 ∨
      127 < c.val.toNat ∧ d.val.toNat ≤ 2047 ∨
      2047 < c.val.toNat ∧ d.val.toNat ≤ 65535 ∨
      65535 < c.val.toNat) (rest rest' : List UInt8) :
    String.utf8EncodeChar c ++ rest < String.utf8EncodeChar d ++ rest' := by
  have hlt : c.val.toNat < d.val.toNat := h
  have hvalid := toNat_lt_of_isValidChar d
  have hdigits := eq_of_digits c.val.toNat
  have hdigits' := eq_of_digits d.val.toNat
  unfold String.utf8EncodeChar
  dsimp only
  rcases hsame with ⟨hc, hd⟩ | ⟨hc, hd⟩ | ⟨hc, hd⟩ | hc
  · rw [if_pos hc, if_pos hd]
    exact (cons_ofNat_lt (by omega) (by omega)).mpr (.inl hlt)
  · rw [if_neg (by omega), if_pos (by omega), if_neg (by omega), if_pos hd]
    simp (disch := omega) only [List.cons_append, List.nil_append, cons_ofNat_lt]
    omega
  · rw [if_neg (by omega), if_neg (by omega), if_pos (by omega), if_neg (by omega),
      if_neg (by omega), if_pos hd]
    simp (disch := omega) only [List.cons_append, List.nil_append, cons_ofNat_lt]
    omega
  · have hfew : d.val.toNat / 262144 % 8 = d.val.toNat / 262144 := Nat.mod_eq_of_lt (by omega)
    have hfew' : c.val.toNat / 262144 % 8 = c.val.toNat / 262144 := Nat.mod_eq_of_lt (by omega)
    rw [if_neg (by omega), if_neg (by omega), if_neg (by omega), if_neg (by omega),
      if_neg (by omega), if_neg (by omega), hfew, hfew']
    simp (disch := omega) only [List.cons_append, List.nil_append, cons_ofNat_lt]
    omega

/-- Whatever follows, the bytes of the lesser sign come first. -/
lemma utf8EncodeChar_lt {c d : Char} (h : c < d) (rest rest' : List UInt8) :
    String.utf8EncodeChar c ++ rest < String.utf8EncodeChar d ++ rest' := by
  have hlt : c.val.toNat < d.val.toNat := h
  obtain ⟨first, others, hfirst, hone, htwo, hthree⟩ := utf8EncodeChar_head c
  obtain ⟨first', others', hfirst', hone', htwo', hthree'⟩ := utf8EncodeChar_head d
  by_cases hsame : c.val.toNat ≤ 127 ∧ d.val.toNat ≤ 127 ∨
      127 < c.val.toNat ∧ d.val.toNat ≤ 2047 ∨
      2047 < c.val.toNat ∧ d.val.toNat ≤ 65535 ∨
      65535 < c.val.toNat
  · exact utf8EncodeChar_lt_of_same h hsame rest rest'
  · have hmore : first.toNat < first'.toNat := by omega
    rw [hfirst, hfirst']
    exact List.cons_lt_cons_iff.mpr (.inl hmore)

lemma flatMap_utf8EncodeChar_lt {chars chars' : List Char} (h : chars < chars') :
    chars.flatMap String.utf8EncodeChar < chars'.flatMap String.utf8EncodeChar := by
  induction chars generalizing chars' with
  | nil =>
    cases chars' with
    | nil => exact absurd h (List.not_lt_nil [])
    | cons d rest' =>
      obtain ⟨first, others, hfirst, -⟩ := utf8EncodeChar_head d
      rw [List.flatMap_cons, hfirst]
      exact List.nil_lt_cons first _
  | cons c rest ih =>
    cases chars' with
    | nil => exact absurd h (List.not_lt_nil _)
    | cons d rest' =>
      rw [List.flatMap_cons, List.flatMap_cons]
      rcases List.cons_lt_cons_iff.mp h with hlt | ⟨rfl, hrest⟩
      · exact utf8EncodeChar_lt hlt _ _
      · exact List.append_left_lt (ih hrest)

lemma bytesOf_lt {a b : String} (h : a < b) : bytesOf a < bytesOf b := by
  rw [bytesOf_eq, bytesOf_eq]
  exact flatMap_utf8EncodeChar_lt (String.lt_iff.mp h)

/-- Texts are in the order of their bytes. -/
theorem bytesOf_lt_iff (a b : String) : bytesOf a < bytesOf b ↔ a < b := by
  refine ⟨fun hbytes => ?_, bytesOf_lt⟩
  by_contra hnot
  by_cases hgreater : b < a
  · exact List.lt_asymm hbytes (bytesOf_lt hgreater)
  · obtain rfl : a = b := String.le_antisymm hgreater hnot
    exact List.lt_irrefl _ hbytes

/-- A sign of three bytes is before a sign of four, although not in units of 16 bits. -/
example : bytesOf "\uffff" < bytesOf "😀" := (bytesOf_lt_iff _ _).mpr (by decide)

end ProcessorHost.Json
