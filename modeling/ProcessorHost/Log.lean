import ProcessorHost.Numeric.Shortest

/-!
# Log records and counters

What a running host reports about itself: records with a level, a message and named
fields, and counters addressed by a name with labels.
-/

namespace ProcessorHost

inductive LogLevel
  | debug
  | info
  | warn
  | error
deriving DecidableEq, Repr

namespace LogLevel

def name : LogLevel → String
  | debug => "DEBUG"
  | info => "INFO"
  | warn => "WARN"
  | error => "ERROR"

end LogLevel

/-- The value of a field: numbers stay numbers. -/
inductive LogValue
  | text (s : String)
  | count (n : Nat)
  | measure (x : Binary64)
deriving DecidableEq, Repr

structure LogRecord where
  level : LogLevel
  message : String
  fields : List (String × LogValue)
deriving DecidableEq, Repr

/-- A counter: what it counts and the labels that tell it apart. -/
structure CounterKey where
  name : String
  labels : List (String × String)
  /-- Whether it counts the observations of a distribution. -/
  observations : Bool
deriving DecidableEq, Repr

namespace CounterKey

/-- The counter's name followed by its labels in braces. -/
def text (k : CounterKey) : String :=
  let labels := k.labels.map fun (name, value) => name ++ "=" ++ value
  k.name ++ "\x7b" ++ String.intercalate "," labels ++ "\x7d" ++
    (if k.observations then " (observations)" else "")

end CounterKey

/-- Counters in the order of their first increment. They have no bound; no program counts as far as
a counter of 64 bits would wrap around. -/
structure Metrics where
  counters : List (CounterKey × Nat)
deriving DecidableEq, Repr

namespace Metrics

def empty : Metrics := ⟨[]⟩

instance : Inhabited Metrics := ⟨empty⟩

/-- Adds one to a counter in a list. -/
def bump (k : CounterKey) : List (CounterKey × Nat) → List (CounterKey × Nat)
  | [] => [(k, 1)]
  | (k', n) :: rest => if k' = k then (k', n + 1) :: rest else (k', n) :: bump k rest

def increment (m : Metrics) (k : CounterKey) : Metrics := ⟨bump k m.counters⟩

/-- The value of a counter; one that was never incremented stands at zero. -/
def count (m : Metrics) (k : CounterKey) : Nat :=
  ((m.counters.find? fun entry => entry.1 = k).map (·.2)).getD 0

theorem count_increment (m : Metrics) (k k' : CounterKey) :
    (m.increment k).count k' = m.count k' + if k' = k then 1 else 0 := by
  unfold increment count
  dsimp only
  induction m.counters with
  | nil =>
    by_cases h : k' = k
    · simp [bump, h]
    · have h' : k ≠ k' := fun heq => h heq.symm
      simp [bump, h, h']
  | cons entry rest ih =>
    obtain ⟨key, n⟩ := entry
    unfold bump
    by_cases hkey : key = k
    · subst hkey
      by_cases h : k' = key
      · simp [h]
      · have h' : key ≠ k' := fun heq => h heq.symm
        simp [h, h']
    · by_cases h : key = k'
      · subst h
        simp [hkey]
      · simpa [hkey, h] using ih

end Metrics

end ProcessorHost
