import ProcessorHost.Proofs.Text.Bytes

/-!
# Signs of numbers

A number is written with digits, a point, the mark of an exponent and the signs of numbers, and with
nothing else.
-/

namespace ProcessorHost

/-- All that a number is written with. -/
def numeralSigns : List Char := "0123456789.e+-".toList

/-- Only signs of numbers are in a text. -/
def IsNumeral (s : String) : Prop := ∀ c ∈ s.toList, c ∈ numeralSigns

instance (s : String) : Decidable (IsNumeral s) := List.decidableBAll _ _

namespace IsNumeral

variable {s s' : String}

lemma append (h : IsNumeral s) (h' : IsNumeral s') : IsNumeral (s ++ s') := by
  intro c hc
  rw [String.toList_append, List.mem_append] at hc
  exact hc.elim (h c) (h' c)

lemma take (h : IsNumeral s) (n : Nat) : IsNumeral (s.take n).toString := by
  intro c hc
  have htake : (s.take n).toString.toList = s.toList.take n := String.toList_copy_take
  rw [htake] at hc
  exact h c (List.mem_of_mem_take hc)

lemma drop (h : IsNumeral s) (n : Nat) : IsNumeral (s.drop n).toString := by
  intro c hc
  have hdrop : (s.drop n).toString.toList = s.toList.drop n := String.toList_copy_drop
  rw [hdrop] at hc
  exact h c (List.mem_of_mem_drop hc)

end IsNumeral

lemma isNumeral_toString (n : Nat) : IsNumeral (toString n) := by
  intro c hc
  have hdigits : (toString n).toList = Nat.toDigits 10 n := Nat.toList_repr
  rw [hdigits] at hc
  have hdigit := Char.isDigit_iff_toNat.mp (Nat.isDigit_of_mem_toDigits (by decide) (by decide) hc)
  have hall : ∀ k : Fin 58, 48 ≤ k.val → Char.ofNat k ∈ numeralSigns := by decide
  have hone := hall ⟨c.toNat, Nat.lt_succ_of_le hdigit.2⟩ hdigit.1
  rwa [Char.ofNat_toNat] at hone

lemma isNumeral_replicate (n : Nat) : IsNumeral (.ofList (List.replicate n '0')) := by
  intro c hc
  rw [String.toList_ofList] at hc
  rw [List.eq_of_mem_replicate hc]
  decide

lemma DecimalLayout.isNumeral_write {layout : DecimalLayout} (hmark : IsNumeral layout.mark)
    (hplus : IsNumeral layout.plus) (digits : Nat) (e : Int) :
    IsNumeral (layout.write digits e) := by
  have hdigits := isNumeral_toString digits
  unfold DecimalLayout.write
  dsimp only
  split_ifs with hplain hwhole hbegun hsingle hsmall hsmall
  -- First the three ways without an exponent, then those with one.
  · exact (hdigits.append (isNumeral_replicate _)).append (by decide)
  · exact ((hdigits.take _).append (by decide)).append (hdigits.drop _)
  · exact (IsNumeral.append (by decide) (isNumeral_replicate _)).append hdigits
  all_goals
    refine IsNumeral.append (.append (.append (.append (hdigits.take 1) ?_) hmark) ?_)
      (isNumeral_toString _)
  · decide
  · decide
  · decide
  · exact hplus
  · exact IsNumeral.append (by decide) (hdigits.drop 1)
  · decide
  · exact IsNumeral.append (by decide) (hdigits.drop 1)
  · exact hplus

lemma Binary64.isNumeral_text (x : Binary64) : IsNumeral x.text := by
  have hsign : IsNumeral (if x.negative then "-" else "") := by
    split
    · decide
    · decide
  unfold Binary64.text
  dsimp only
  split
  · exact hsign.append (by decide)
  · exact hsign.append (DecimalLayout.isNumeral_write (by decide) (by decide) _ _)

lemma Json.Number.isNumeral_written (n : Json.Number) : IsNumeral n.written := by
  cases n with
  | binary x => exact x.isNumeral_text
  | integer n =>
    cases n with
    | ofNat n => exact isNumeral_toString n
    | negSucc n => exact IsNumeral.append (by decide) (isNumeral_toString (n + 1))

/-- A byte that stands for no sign of a number is in no number. -/
lemma IsNumeral.not_mem_bytesOf {s : String} (h : IsNumeral s) {b : UInt8}
    (hother : numeralSigns.all (fun c => !(String.utf8EncodeChar c).contains b) = true) :
    b ∉ Json.bytesOf s := by
  rw [Json.bytesOf_eq, List.mem_flatMap]
  rintro ⟨c, hc, hb⟩
  have hc' := List.all_eq_true.mp hother c (h c hc)
  rw [List.contains_iff_mem.mpr hb] at hc'
  cases hc'

end ProcessorHost
