import ProcessorHost.Call.Request
import ProcessorHost.Event
import ProcessorHost.Errors
import ProcessorHost.Processor.Behaviour
import ProcessorHost.Service.Health

/-!
# Processors and runners

A processor is the code that is hosted. A runner makes process calls to it: either the
runner of this library, around a processor that was bound to its context manager, or
another one that answers at once.
-/

namespace ProcessorHost

structure Processor where
  /-- The name it declares. -/
  name : String
  /-- What it does with an event, once it has been bound. -/
  work : ProcessorBinding → Event → Json.Members → Behaviour (Except Cause Json.Members)

/-- Calls a bound processor, in a scope of its context manager. -/
structure ProcessorRunner where
  processor : Processor
  binding : ProcessorBinding
  manager : ContextManager
  identity : ProcessorIdentity

namespace ProcessorRunner

/-- The text of a runner, which shows nothing but its identity. -/
def text (r : ProcessorRunner) : String :=
  Text.record "ProcessorRunner" [("identity", r.identity.text)] .partly

end ProcessorRunner

inductive Runner
  | hosted (runner : ProcessorRunner)
  | other (identity : ProcessorIdentity)
      (answer : ProcessRequest → Except ProcessingError ProcessResponse)

namespace Runner

def identity : Runner → ProcessorIdentity
  | hosted runner => runner.identity
  | other identity _ => identity

end Runner

end ProcessorHost
