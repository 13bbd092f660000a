import ProcessorHost.Processor.Processor
import ProcessorHost.Text.Blank

/-!
# Counting words

A processor that counts the words of the parameter `text` and times itself while it does.
-/

namespace ProcessorHost

namespace WordCount

/-- The scope of the call that is being worked on. -/
def callScope : Nat := 0

/-- Counts the words of a text under a stopwatch. -/
def count (text : String) : Behaviour (Except Cause Json.Members) := do
  match ← Behaviour.perform (.newWatch "count" (.attached callScope) true) with
  | .watch watch =>
    let words := Text.wordCount text
    let reply ← Behaviour.perform (.stop watch)
    let _ ← Behaviour.perform (.dropWatch watch)
    match reply with
    | .refused e => return .error (.of e.message)
    | _ => return .ok [("words", .natural words)]
  | _ => return .error (.of "no scope to work in")

/-- The processor. Without a text it fails. -/
def processor : Processor where
  name := "word-count"
  work _ _ params :=
    match (Keyed.find? "text" params).bind (·.string?) with
    | some text => count text
    | none => return .error (.of "`text` parameter is required")

end WordCount

end ProcessorHost
