import ProcessorHost.Cli.Launch
import ProcessorHost.Cli.LogLine
import ProcessorHost.Http.Framing
import ProcessorHost.Processor.WordCount

/-!
# The program

Serves the processor that counts words. Requests come one after the other from the standard
input and are answered on the standard output; the end of the input tells the server to
stop. The log goes to the standard error.
-/

namespace ProcessorHost.Program

open Cli (Launch ServerArgs)

/-- Steps that a request may take. -/
def fuel : Nat := 1000000

/-- An identifier that is fresh as far as the clock tells. -/
def freshId : IO String := do
  return "host-" ++ toString (← IO.monoNanosNow)

/-- The variables of the environment that stand in for options. -/
def environment : IO (List (String × String)) := do
  let names := ServerArgs.options.filterMap (·.env)
  let read (name : String) : IO (Option (String × String)) := do
    return (← IO.getEnv name).map (name, ·)
  return (← names.mapM read).filterMap id

/-- Writes out what has been reported. -/
def flushLog (launch : Launch) (e : Executor EventStore Lifecycle) :
    IO (Executor EventStore Lifecycle) := do
  for record in e.host.log do
    IO.eprintln (record.line launch.args.logJson)
  return { e with host := { e.host with log := [] } }

/-- The lines up to an empty one. -/
partial def readHead (input : IO.FS.Stream) (lines : List String) : IO (List String) := do
  let line ← input.getLine
  if (Http.trimmed line).isEmpty then return lines.reverse
  readHead input (line :: lines)

/-- So many bytes, or as many as there are. -/
partial def readBody (input : IO.FS.Stream) (length : Nat) (body : ByteArray) : IO ByteArray := do
  if length ≤ body.size then return body
  let more ← input.read (.ofNat (length - body.size))
  if more.isEmpty then return body
  readBody input length (body ++ more)

/-- Answers requests until there are no more. -/
partial def attend (launch : Launch) (input output : IO.FS.Stream) (started number : Nat)
    (e : Executor EventStore Lifecycle) : IO (Executor EventStore Lifecycle) := do
  match Http.RequestHead.ofLines? (← readHead input []) with
  | none => return e
  | some head =>
    let request := head.withBody (← readBody input head.bodyLength .empty).toList
    let id ← freshId
    let elapsed := (← IO.monoNanosNow) - started
    let e := e.sleep Launch.clients launch.server fuel (elapsed - e.host.now)
    let (e, answer) := e.request Launch.clients launch.server fuel number id request
    let response := match answer with
      | some (.responded response) => response
      | _ => .bare 500
    output.putStr response.framed
    output.flush
    attend launch input output started (number + 1) (← flushLog launch e)

/-- Serves until there are no more requests. -/
def serve (launch : Launch) : IO (UInt32 × Option String) := do
  let e : Executor EventStore Lifecycle := ⟨launch.host, [], [], []⟩
  let (e, begun) := e.beginServing Launch.clients launch.server fuel launch.address
  let e ← flushLog launch e
  match begun with
  | .error _ => return Launch.ending begun
  | .ok () =>
    let e ← attend launch (← IO.getStdin) (← IO.getStdout) (← IO.monoNanosNow) 1 e
    let (e, ended) := e.endServing Launch.clients launch.server fuel
    let _ ← flushLog launch e
    return Launch.ending ended

/-- Runs the program; the result is its exit code. -/
def run (arguments : List String) : IO UInt32 := do
  let env ← environment
  let id ← freshId
  let launched := Launch.ofCommandLine .isolated WordCount.processor id arguments env
  let (code, complaint) ← match launched with
    | .ok launch => serve launch
    | .error refusal =>
      if let some text := refusal.answer? then IO.println text
      pure (refusal.exitCode, refusal.complaint?)
  if let some text := complaint then IO.eprintln text
  return code

end ProcessorHost.Program

def main (arguments : List String) : IO UInt32 := ProcessorHost.Program.run arguments
