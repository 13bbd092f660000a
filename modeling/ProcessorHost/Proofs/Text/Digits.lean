import Mathlib.Tactic.Common

/-!
# Digits of numbers

A number is written with the digits of its base, and unless it is zero the first one is not a zero.
-/

namespace ProcessorHost.Digits

variable {base : Nat}

/-- What holds of the numbers with one digit, and with each digit put behind the others, holds of
all numbers. -/
lemma toDigits_induction (hbase : 1 < base) {P : Nat → List Char → Prop}
    (one : ∀ d < base, P d [d.digitChar])
    (more : ∀ n d, 0 < n → d < base → P n (Nat.toDigits base n) →
      P (n * base + d) (Nat.toDigits base n ++ [d.digitChar])) (n : Nat) :
    P n (Nat.toDigits base n) := by
  induction n using Nat.strongRecOn with
  | _ n ih =>
    rw [Nat.toDigits_eq_if hbase]
    split
    · rename_i hlt
      exact one n hlt
    · rename_i hge
      have hpos : 0 < n / base := Nat.div_pos (Nat.le_of_not_lt hge) (Nat.lt_of_succ_lt hbase)
      have hrest := more (n / base) (n % base) hpos (Nat.mod_lt _ (Nat.lt_of_succ_lt hbase))
        (ih _ (Nat.div_lt_self (by omega) hbase))
      rwa [Nat.div_add_mod'] at hrest

lemma exists_of_mem_toDigits (hbase : 1 < base) (n : Nat) :
    ∀ c ∈ Nat.toDigits base n, ∃ d < base, c = d.digitChar := by
  induction n using toDigits_induction hbase with
  | one d hd => exact fun c hc => ⟨d, hd, List.mem_singleton.mp hc⟩
  | more n d hn hd ih =>
    intro c hc
    rcases List.mem_append.mp hc with hc | hc
    · exact ih c hc
    · exact ⟨d, hd, List.mem_singleton.mp hc⟩

lemma head?_toDigits (hbase : 1 < base) (hlimit : base ≤ 16) (n : Nat) :
    0 < n → (Nat.toDigits base n).head? ≠ some '0' := by
  have hzero : ∀ d < 16, 0 < d → d.digitChar ≠ '0' := by decide
  induction n using toDigits_induction hbase with
  | one d hd =>
    intro hpos heq
    exact hzero d (by omega) hpos (Option.some.inj heq)
  | more n d hn hd ih =>
    intro _
    have hfirst := ih hn
    obtain ⟨c, rest, hcons⟩ := List.exists_cons_of_ne_nil (Nat.toDigits_ne_nil (n := n) (b := base))
    rw [hcons] at hfirst ⊢
    exact hfirst

end ProcessorHost.Digits
