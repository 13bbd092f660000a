import ProcessorHost.Span

/-!
# Timing samples

A sample is one finished interval of a stopwatch, filed under the context that was active
when it ended and the label of the stopwatch.
-/

namespace ProcessorHost

/-- Where a sample is filed. -/
structure TimingKey where
  context : String
  stopwatch : String
deriving DecidableEq, Repr, Inhabited

namespace TimingKey

/-- The two labels with a colon between them. -/
def text (k : TimingKey) : String := k.context ++ ":" ++ k.stopwatch

/-- Keys are ordered by context, then by stopwatch. -/
instance : LT TimingKey :=
  ⟨fun a b => a.context < b.context ∨ (a.context = b.context ∧ a.stopwatch < b.stopwatch)⟩

instance (a b : TimingKey) : Decidable (a < b) :=
  inferInstanceAs (Decidable (_ ∨ _))

/-- Puts a key into a list in increasing order, unless it is there. -/
def insert (k : TimingKey) : List TimingKey → List TimingKey
  | [] => [k]
  | k' :: rest =>
    if k < k' then k :: k' :: rest
    else if k = k' then k' :: rest
    else k' :: insert k rest

/-- The keys of a list in increasing order, each of them once. -/
def sorted (keys : List TimingKey) : List TimingKey := keys.foldr insert []

end TimingKey

/-- A point of time: nanoseconds since the epoch, less than `2 ^ 63` seconds. -/
structure Timestamp where
  nanos : Nat
  nanos_lt : nanos < 0x8000000000000000 * 1000000000
deriving DecidableEq, Repr

namespace Timestamp

def epoch : Timestamp := ⟨0, by decide⟩

instance : Inhabited Timestamp := ⟨epoch⟩

def ofNanos? (n : Nat) : Option Timestamp :=
  if h : n < 0x8000000000000000 * 1000000000 then some ⟨n, h⟩ else none

end Timestamp

/-- One finished interval. -/
structure TimingSample where
  key : TimingKey
  /-- The length of the interval, not of all intervals of the stopwatch. -/
  duration : Span
  /-- When the interval ended. -/
  observedAt : Timestamp
deriving DecidableEq, Repr, Inhabited

end ProcessorHost
