import ProcessorHost.Json.Printer
import ProcessorHost.Timing.Sample

/-!
# Statistics of one timing key

The number of recorded spans, their sum, and the least and the greatest of them.
-/

namespace ProcessorHost

structure TimingStats where
  count : Nat
  total : Span
  min : Span
  max : Span
deriving DecidableEq, Repr, Inhabited

namespace TimingStats

/-- Nothing recorded. -/
def empty : TimingStats := ⟨0, .zero, .zero, .zero⟩

/-- What would have become too large. -/
inductive Overflow
  /-- A number of 64 bits. -/
  | count
  | total
deriving DecidableEq, Repr

/-- The text of the panic that this causes. -/
def Overflow.message : Overflow → String
  | count => "attempt to add with overflow"
  | total => Span.overflowText

/-- Takes a span into the least and the greatest. -/
def widen (s : TimingStats) (d : Span) : TimingStats :=
  { s with
    min := if s.count = 0 ∨ d < s.min then d else s.min
    max := if s.max < d then d else s.max }

/-- Records a span: the least and the greatest first, then the number, then the sum. What
would become too large stays as it was, and so does all that comes after it; the statistics
left behind are part of the error. -/
def record (s : TimingStats) (d : Span) : Except (Overflow × TimingStats) TimingStats :=
  let widened := s.widen d
  if s.count + 1 < 0x10000000000000000 then
    let counted := { widened with count := s.count + 1 }
    match s.total.add? d with
    | some total => .ok { counted with total }
    | none => .error (.total, counted)
  else .error (.count, widened)

/-- The mean span, rounded down to a nanosecond; zero when nothing was recorded. Counts of
more than 32 bits are divided as binary numbers of seconds, to the nearest nanosecond. -/
def mean (s : TimingStats) : Span :=
  if s.count = 0 then .zero
  else if s.count < 0x100000000 then s.total.divide s.count
  else
    ((s.total.secondsBinary.div? (Binary64.ofNat s.count)).bind Span.ofSecondsBinary?).getD .zero

/-- Milliseconds as a JSON number. -/
def millisValue (d : Span) : Json.Value := .number (.binary d.millis)

/-- The statistics as a JSON object. -/
def value (s : TimingStats) : Json.Value :=
  .object [
    ("count", .natural s.count),
    ("total_ms", millisValue s.total),
    ("mean_ms", millisValue s.mean),
    ("min_ms", millisValue s.min),
    ("max_ms", millisValue s.max)]

end TimingStats

end ProcessorHost
