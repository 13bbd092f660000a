import ProcessorHost.Numeric.Binary64

/-!
# Spans of time

A span is a whole number of nanoseconds, less than `2 ^ 64` seconds. Sums that leave
this range are refused, and the caller decides what that means.
-/

namespace ProcessorHost

/-- A length of time. -/
structure Span where
  nanos : Nat
  nanos_lt : nanos < 0x10000000000000000 * 1000000000
deriving DecidableEq, Repr

namespace Span

def zero : Span := ⟨0, by decide⟩

instance : Inhabited Span := ⟨zero⟩

/-- The span of that many nanoseconds, if there is one. -/
def ofNanos? (n : Nat) : Option Span :=
  if h : n < 0x10000000000000000 * 1000000000 then some ⟨n, h⟩ else none

/-- The span of that many nanoseconds, or the longest one. -/
def ofNanosOrMax (n : Nat) : Span :=
  if h : n < 0x10000000000000000 * 1000000000 then ⟨n, h⟩
  else ⟨0x10000000000000000 * 1000000000 - 1, by decide⟩

/-- The span between two readings of 64 bits, zero if the later one is smaller. -/
def between (earlier later : UInt64) : Span :=
  ⟨later.toNat - earlier.toNat, by have := later.toNat_lt; omega⟩

/-- Whole seconds and the nanoseconds beyond them. -/
def seconds (s : Span) : Nat := s.nanos / 1000000000

def subsecond (s : Span) : Nat := s.nanos % 1000000000

/-- The text of the panic when a sum of spans is too long. -/
def overflowText : String := "overflow when adding durations"

/-- The sum, unless it is too long. -/
def add? (a b : Span) : Option Span := ofNanos? (a.nanos + b.nanos)

/-- The quotient, rounded down. -/
def divide (s : Span) (n : Nat) : Span :=
  ⟨s.nanos / n, Nat.lt_of_le_of_lt (Nat.div_le_self _ _) s.nanos_lt⟩

instance : LT Span := ⟨fun a b => a.nanos < b.nanos⟩

instance : LE Span := ⟨fun a b => a.nanos ≤ b.nanos⟩

instance (a b : Span) : Decidable (a < b) := inferInstanceAs (Decidable (a.nanos < b.nanos))

instance (a b : Span) : Decidable (a ≤ b) := inferInstanceAs (Decidable (a.nanos ≤ b.nanos))

@[ext]
theorem ext {a b : Span} (h : a.nanos = b.nanos) : a = b := by
  cases a
  cases b
  simp_all

theorem add?_eq_some_iff {a b c : Span} : a.add? b = some c ↔ c.nanos = a.nanos + b.nanos := by
  unfold add? ofNanos?
  split
  · simp only [Option.some.injEq]
    constructor
    · rintro rfl
      rfl
    · intro h
      exact Span.ext h.symm
  · have := c.nanos_lt
    simp only [reduceCtorEq, false_iff]
    omega

/-- A number of whole units and a remainder counted in units of `10 ^ -places`,
without trailing zeros. -/
def decimal (whole rest places : Nat) : String :=
  let digits := (Nat.toDigits 10 rest)
  let padded := List.replicate (places - digits.length) '0' ++ digits
  let kept := (padded.reverse.dropWhile (· = '0')).reverse
  if kept.isEmpty then toString whole else toString whole ++ "." ++ String.ofList kept

/-- A span in the largest of s, ms, µs and ns that leaves a whole part. -/
def text (s : Span) : String :=
  let n := s.nanos
  if 1000000000 ≤ n then decimal (n / 1000000000) (n % 1000000000) 9 ++ "s"
  else if 1000000 ≤ n then decimal (n / 1000000) (n % 1000000) 6 ++ "ms"
  else if 1000 ≤ n then decimal (n / 1000) (n % 1000) 3 ++ "µs"
  else toString n ++ "ns"

/-- Milliseconds: the nanoseconds as a number of the format, divided by a million. -/
def millis (s : Span) : Binary64 :=
  ((Binary64.ofNat s.nanos).div? (Binary64.ofNat 1000000)).getD (Binary64.zero false)

/-- Seconds: the whole seconds and the rest in seconds, each rounded, and their rounded sum. -/
def secondsBinary (s : Span) : Binary64 :=
  let rest := ((Binary64.ofNat s.subsecond).div? (Binary64.ofNat 1000000000)).getD
    (Binary64.zero false)
  ((Binary64.ofNat s.seconds).addMagnitudes? rest).getD (Binary64.zero false)

/-- The span nearest to a number of seconds, a half going to the even nanosecond. -/
def ofSecondsBinary? (x : Binary64) : Option Span :=
  ofNanos? (roundHalfEven (x.num * 1000000000) x.den)

end Span

end ProcessorHost
