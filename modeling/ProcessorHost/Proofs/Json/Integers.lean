import ProcessorHost.Json.Numeral
import ProcessorHost.Proofs.Text.Bytes
import ProcessorHost.Proofs.Text.Digits

/-!
# Integers written and read back

An integer that is read has at most 64 bits, with or without a sign. Every such integer is read
back from its digits, unless they go on with another digit, a point or an exponent.
-/

namespace ProcessorHost.Json

/-- What is read in two steps is read by the one and then by the other. -/
lemma exists_of_bind_eq_ok {ε α β : Type} {x : Except ε α} {f : α → Except ε β} {b : β}
    (h : x >>= f = .ok b) : ∃ a, x = .ok a ∧ f a = .ok b := by
  cases x with
  | error e => cases h
  | ok a => exact ⟨a, rfl, h⟩

/-- An integer has at most 64 bits, with or without a sign. -/
def Number.Fits : Number → Prop
  | integer n => -0x8000000000000000 ≤ n ∧ n < 0x10000000000000000
  | binary _ => True

section Reading

variable {negative : Bool} {significand : Nat} {s rest : List UInt8} {n : Number}

lemma fits_binaryNumber {e : Int} (h : binaryNumber negative significand e = .ok n) : n.Fits := by
  unfold binaryNumber at h
  split at h
  · cases h
    trivial
  · cases h

lemma fits_bind_binaryNumber {e : Int} {s' : List UInt8}
    (h : (do let n ← binaryNumber negative significand e; .ok (n, s')) = Except.ok (n, rest)) :
    n.Fits := by
  obtain ⟨n', hbinary, heq⟩ := exists_of_bind_eq_ok h
  cases heq
  exact fits_binaryNumber hbinary

lemma fits_exponentPart {start : Int}
    (h : exponentPart negative significand start s = .ok (n, rest)) : n.Fits := by
  unfold exponentPart at h
  split at h
  split at h
  · cases h
  · split at h
    · split at h
      · exact fits_bind_binaryNumber h
      · split at h
        · cases h
        · cases h
          trivial
    · cases h

lemma fits_exponentAfter {e : Int} (h : exponentAfter negative significand e s = .ok (n, rest)) :
    n.Fits := by
  unfold exponentAfter at h
  dsimp only at h
  split at h
  · split at h
    · exact fits_exponentPart h
    · exact fits_bind_binaryNumber h
  · exact fits_bind_binaryNumber h

lemma fits_decimals {before : Int} (h : decimals negative significand before s = .ok (n, rest)) :
    n.Fits := by
  unfold decimals at h
  dsimp only at h
  split at h
  · split at h
    · cases h
    · exact fits_exponentAfter h
  · split at h
    · exact fits_exponentAfter h
    · split at h
      · cases h
      · exact fits_exponentAfter h

lemma fits_integerNumber (negative : Bool) (hsignificand : significand < significandLimit) :
    (integerNumber negative significand).Fits := by
  have hlimit : significandLimit = 0x10000000000000000 := rfl
  unfold integerNumber
  split
  · split
    · trivial
    · simp only [Number.Fits]
      omega
  · simp only [Number.Fits]
    omega

lemma fits_afterInteger (hsignificand : significand < significandLimit)
    (h : afterInteger negative significand s = .ok (n, rest)) : n.Fits := by
  have hplain := fits_integerNumber negative hsignificand
  unfold afterInteger at h
  dsimp only at h
  split at h
  · split at h
    · exact fits_decimals h
    · split at h
      · exact fits_exponentPart h
      · split at h
        · split at h
          · split at h
            · exact fits_decimals h
            · exact fits_exponentAfter h
          · exact fits_exponentAfter h
        · cases h
          exact hplain
  · cases h
    exact hplain

lemma takeDigits_lt (hsignificand : significand < significandLimit) (taken : Nat) :
    (takeDigits significand taken s).1 < significandLimit := by
  induction s generalizing significand taken with
  | nil => exact hsignificand
  | cons b s ih =>
    unfold takeDigits
    split
    · rename_i hmore
      exact ih (of_decide_eq_true (Bool.and_eq_true_iff.mp hmore).2) _
    · exact hsignificand

lemma fits_unsignedNumber (h : unsignedNumber negative s = .ok (n, rest)) : n.Fits := by
  unfold unsignedNumber at h
  split at h
  · cases h
  · rename_i b s
    have hfirst : digitValue b < significandLimit :=
      Nat.lt_of_le_of_lt (Nat.sub_le _ _) (Nat.lt_trans b.toNat_lt (by decide))
    split at h
    · split at h
      · split at h
        · cases h
        · exact fits_afterInteger (by decide) h
      · exact fits_afterInteger (by decide) h
    · split at h
      · exact fits_afterInteger (takeDigits_lt hfirst 0) h
      · cases h

/-- Integers that are read have at most 64 bits. -/
lemma fits_number (h : number s = .ok (n, rest)) : n.Fits := by
  unfold number at h
  split at h
  · cases h
  · split at h
    · exact fits_unsignedNumber h
    · exact fits_unsignedNumber h

end Reading

/-- What may come after a value: nothing, a comma or the end of what it stands in. -/
def EndsValue (tail : List UInt8) : Prop :=
  ∀ b ∈ tail.head?, b = ascii ',' ∨ b = ascii '\x7d' ∨ b = ascii ']'

section Writing

/-- The byte of a digit. -/
def digitByte (d : Nat) : UInt8 := .ofNat (48 + d)

lemma utf8EncodeChar_digitChar : ∀ d < 10, String.utf8EncodeChar d.digitChar = [digitByte d] := by
  decide

lemma isDigit_digitByte : ∀ d < 10, isDigit (digitByte d) = true := by decide

lemma digitValue_digitByte : ∀ d < 10, digitValue (digitByte d) = d := by decide

lemma takeDigits_digit {significand d : Nat} (hd : d < 10)
    (hlimit : significand * 10 + d < significandLimit) (taken : Nat) (s : List UInt8) :
    takeDigits significand taken (digitByte d :: s) =
      takeDigits (significand * 10 + d) (taken + 1) s := by
  rw [takeDigits, digitValue_digitByte d hd, isDigit_digitByte d hd, Bool.true_and,
    if_pos (decide_eq_true hlimit)]

lemma bytesOf_toString (n : Nat) :
    bytesOf (toString n) = (Nat.toDigits 10 n).flatMap String.utf8EncodeChar := by
  have hdigits : (toString n).toList = Nat.toDigits 10 n := Nat.toList_repr
  rw [bytesOf_eq, hdigits]

/-- The first digit of a number, which is a zero only if the number is, and the number that is taken
from it and the others. -/
lemma exists_digits (n : Nat) : n < significandLimit → ∃ d later, d < 10 ∧ (0 < n → 0 < d) ∧
    (Nat.toDigits 10 n).flatMap String.utf8EncodeChar = digitByte d :: later ∧
    ∀ tail, ∃ count, takeDigits d 0 (later ++ tail) = takeDigits n count tail := by
  induction n using Digits.toDigits_induction (by decide : 1 < 10) with
  | one d hd =>
    intro _
    refine ⟨d, [], hd, id, ?_, fun tail => ⟨0, rfl⟩⟩
    rw [List.flatMap_singleton, utf8EncodeChar_digitChar d hd]
  | more n d hn hd ih =>
    intro hlimit
    obtain ⟨first, later, hfirst, hpos, hbytes, htake⟩ := ih (by omega)
    refine ⟨first, later ++ [digitByte d], hfirst, fun _ => hpos hn, ?_, fun tail => ?_⟩
    · rw [List.flatMap_append, hbytes, List.flatMap_singleton, utf8EncodeChar_digitChar d hd,
        List.cons_append]
    · obtain ⟨count, htake⟩ := htake (digitByte d :: tail)
      refine ⟨count + 1, ?_⟩
      rw [List.append_assoc, List.singleton_append, htake, takeDigits_digit hd hlimit]

variable {tail : List UInt8}

lemma EndsValue.not_isDigit (h : EndsValue tail) : ∀ b ∈ tail.head?, isDigit b = false := by
  intro b hb
  rcases h b hb with rfl | rfl | rfl
  · decide
  · decide
  · decide

lemma takeDigits_stop (h : EndsValue tail) (significand taken : Nat) :
    takeDigits significand taken tail = (significand, taken, tail) := by
  cases tail with
  | nil => rfl
  | cons b tail =>
    rw [takeDigits, h.not_isDigit b rfl]
    rfl

/-- What ends a value is not part of a number. -/
lemma afterInteger_stop (h : EndsValue tail) (negative : Bool) (significand : Nat) :
    afterInteger negative significand tail = .ok (integerNumber negative significand, tail) := by
  cases tail with
  | nil => rfl
  | cons b tail =>
    rcases h b rfl with rfl | rfl | rfl
    · rfl
    · rfl
    · rfl

lemma unsignedNumber_digits (h : EndsValue tail) {n : Nat} (hn : n < significandLimit)
    (negative : Bool) :
    unsignedNumber negative (bytesOf (toString n) ++ tail) =
      .ok (integerNumber negative n, tail) := by
  rw [bytesOf_toString]
  -- A zero is not followed by further digits, and no other number begins with one.
  obtain rfl | hpos := Nat.eq_zero_or_pos n
  · cases tail with
    | nil => rfl
    | cons b tail =>
      change (if isDigit b then _ else afterInteger negative 0 (b :: tail)) = _
      rw [h.not_isDigit b rfl, if_neg Bool.false_ne_true, afterInteger_stop h]
  · obtain ⟨d, later, hd, hfirst, hbytes, htake⟩ := exists_digits n hn
    obtain ⟨count, htake⟩ := htake tail
    have hzero : ∀ d < 10, 0 < d → digitByte d ≠ ascii '0' := by decide
    rw [hbytes, List.cons_append]
    unfold unsignedNumber
    dsimp only
    rw [if_neg (hzero d hd (hfirst hpos)), if_pos (isDigit_digitByte d hd),
      digitValue_digitByte d hd, htake, takeDigits_stop h]
    exact afterInteger_stop h negative n

lemma written_natural {n : Nat} (hn : n < significandLimit) :
    ∃ d later, d < 10 ∧ bytesOf (Number.integer n).written = digitByte d :: later := by
  obtain ⟨d, later, hd, -, hbytes, -⟩ := exists_digits n hn
  exact ⟨d, later, hd, (bytesOf_toString n).trans hbytes⟩

lemma written_negSucc (n : Nat) :
    bytesOf (Number.integer (.negSucc n)).written = ascii '-' :: bytesOf (toString (n + 1)) := by
  rw [bytesOf_eq, bytesOf_eq]
  exact congrArg (List.flatMap String.utf8EncodeChar) String.toList_append

/-- An integer begins with a digit or a minus sign. -/
lemma written_begins {n : Int} (hn : (Number.integer n).Fits) : ∃ b later,
    bytesOf (Number.integer n).written = b :: later ∧
      (b = ascii '-' ∨ ∃ d < 10, b = digitByte d) := by
  cases n with
  | ofNat n =>
    obtain ⟨d, later, hd, hbytes⟩ := written_natural (Int.ofNat_lt.mp hn.2)
    exact ⟨digitByte d, later, hbytes, .inr ⟨d, hd, rfl⟩⟩
  | negSucc n => exact ⟨ascii '-', _, written_negSucc n, .inl rfl⟩

/-- Every integer of at most 64 bits is read back from its digits. -/
theorem number_written (h : EndsValue tail) {n : Int} (hn : (Number.integer n).Fits) :
    number (bytesOf (Number.integer n).written ++ tail) = .ok (.integer n, tail) := by
  obtain ⟨hlow, hhigh⟩ := hn
  cases n with
  | ofNat n =>
    have hlimit : n < significandLimit := Int.ofNat_lt.mp hhigh
    obtain ⟨d, later, hd, hbytes⟩ := written_natural hlimit
    have hsign : ∀ d < 10, digitByte d ≠ ascii '-' := by decide
    have hread : unsignedNumber false (bytesOf (Number.integer n).written ++ tail) =
        .ok (.integer n, tail) := unsignedNumber_digits h hlimit false
    rw [hbytes] at hread
    rw [Int.ofNat_eq_natCast, hbytes, List.cons_append]
    unfold number
    dsimp only
    rw [if_neg (hsign d hd)]
    exact hread
  | negSucc n =>
    have hsmall : n + 1 ≤ 0x8000000000000000 := by omega
    have hread := unsignedNumber_digits h (n := n + 1)
      (Nat.lt_of_le_of_lt hsmall (by decide)) true
    have hnumber : integerNumber true (n + 1) = .integer (Int.negSucc n) := by
      unfold integerNumber
      rw [if_pos rfl, if_neg (by omega)]
      rfl
    rw [written_negSucc, List.cons_append]
    unfold number
    dsimp only
    rw [if_pos rfl, hread, hnumber]

end Writing

end ProcessorHost.Json
