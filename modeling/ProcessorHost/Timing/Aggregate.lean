import ProcessorHost.Log
import ProcessorHost.Timing.Stats

/-!
# Statistics by timing key

An aggregate keeps one `TimingStats` for each key that was recorded, in increasing order
of the keys.
-/

namespace ProcessorHost

structure TimingAggregate where
  entries : List (TimingKey × TimingStats)
deriving DecidableEq, Repr, Inhabited

namespace TimingAggregate

def empty : TimingAggregate := ⟨[]⟩

/-- The statistics of a key, if anything was recorded under it. -/
def get? (a : TimingAggregate) (key : TimingKey) : Option TimingStats :=
  Keyed.find? key a.entries

def size (a : TimingAggregate) : Nat := a.entries.length

/-- Files a sample under its key. When the number or the sum of that key would be too
large, the aggregate left behind is part of the error. -/
def record (a : TimingAggregate) (sample : TimingSample) :
    Except (TimingStats.Overflow × TimingAggregate) TimingAggregate :=
  match ((a.get? sample.key).getD .empty).record sample.duration with
  | .ok stats => .ok ⟨Keyed.insert sample.key stats a.entries⟩
  | .error (overflow, stats) => .error (overflow, ⟨Keyed.insert sample.key stats a.entries⟩)

/-- The number of recorded samples. -/
def samples (a : TimingAggregate) : Nat := a.entries.foldl (fun n entry => n + entry.2.count) 0

/-- One member for each key, named by the key's text, in the order of the keys. -/
def value (a : TimingAggregate) : Json.Value :=
  .object (a.entries.map fun (key, stats) => (key.text, stats.value))

/-- One record for each key. -/
def report (a : TimingAggregate) : List LogRecord :=
  a.entries.map fun (key, stats) =>
    ⟨.debug, "timing summary",
      [("key", .text key.text), ("count", .count stats.count),
        ("mean_ms", .measure stats.mean.millis), ("max_ms", .measure stats.max.millis)]⟩

/-- What is reported when the aggregate is given up. -/
def farewell (a : TimingAggregate) : LogRecord :=
  ⟨.info, "timing collector stopped", [("keys", .count a.size), ("samples", .count a.samples)]⟩

end TimingAggregate

end ProcessorHost
