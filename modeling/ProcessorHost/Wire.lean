import ProcessorHost.Call.Request
import ProcessorHost.Event
import ProcessorHost.Json.Decoder
import ProcessorHost.Lifecycle
import ProcessorHost.Timing.Sample

/-!
# Data types as JSON

For each type that crosses the network, its JSON value and the decoder that reads it back.
-/

namespace ProcessorHost

open Json

/-- A record of one or two fields of the given types that is being filled. -/
structure Pair (α β : Type) where
  first : Option α
  second : Option β

namespace Pair

variable {α β : Type}

def empty : Pair α β := ⟨none, none⟩

def firstField (name : String) (decoder : Decoder α) : FieldSpec (Pair α β) :=
  .of name (·.first) (fun p a => { p with first := a }) decoder false

def secondField (name : String) (decoder : Decoder β) (optional : Bool) : FieldSpec (Pair α β) :=
  .of name (·.second) (fun p b => { p with second := b }) decoder optional

end Pair

namespace Event

def value (e : Event) : Value :=
  .object [("event_id", .text e.id),
    ("metadata", .object (e.metadata.map fun (k, v) => (k, .text v)))]

def shape : RecordShape (Pair String (List (String × String))) Event where
  expected := "struct Event"
  expectedLong := "struct Event with 2 elements"
  closed := false
  fields := [Pair.firstField "event_id" .string,
    Pair.secondField "metadata" (.dictionary .string) true]
  empty := .empty
  finish := fun p => do
    let id ← require "event_id" p.first
    .ok ⟨id, p.second.getD []⟩

def decoder : Decoder Event := shape.decoder

end Event

namespace ProcessorIdentity

def value (i : ProcessorIdentity) : Value := .object [("name", .text i.name), ("id", .text i.id)]

def shape : RecordShape (Pair String String) ProcessorIdentity where
  expected := "struct ProcessorIdentity"
  expectedLong := "struct ProcessorIdentity with 2 elements"
  closed := false
  fields := [Pair.firstField "name" .string, Pair.secondField "id" .string false]
  empty := .empty
  finish := fun p => do
    let name ← require "name" p.first
    let id ← require "id" p.second
    .ok ⟨name, id⟩

def decoder : Decoder ProcessorIdentity := shape.decoder

end ProcessorIdentity

namespace Health

def value (h : Health) : Value := .text h.name

/-- The state with a name. -/
def named (s : String) : Except Failure Health :=
  match ofName? s with
  | some h => .ok h
  | none => refuse (.unknownVariant s names)

/-- The null that stands for the content of a state written as an object. -/
def content (lim : Limits) : Reader Unit := fun s =>
  match skipSpace s with
  | [] => refuse .endInValue
  | b :: rest =>
    if b = ascii 'n' then word (bytesOf "ull") rest else mismatch lim "unit" (b :: rest)

/-- Reads a state from its name, or from an object with the name over a null. -/
def decoder : Decoder Health := fun lim s =>
  match skipSpace s with
  | [] => refuse .endInValue
  | b :: rest =>
    if b = ascii '"' then do
      let (name, rest) ← text lim.size rest
      let h ← named name
      .ok (h, rest)
    else if b = ascii '{' then
      Decoder.nested lim fun lim => do
        let (name, rest) ← Decoder.textAs "variant identifier" lim rest
        let h ← named name
        let (_, rest) ← colon rest
        let (_, rest) ← content lim rest
        match skipSpace rest with
        | [] => refuse .endInObject
        | b :: rest => if b = ascii '}' then .ok (h, rest) else refuse .expectedValue
    else refuse .expectedValue

end Health

namespace Registration

def value (r : Registration) : Value :=
  .object [("service_name", .text r.serviceName), ("unique_service_id", .text r.uniqueServiceId),
    ("address", .text r.address), ("tags", .array (r.tags.map .text))]

/-- A registration that is being filled. -/
structure Draft where
  serviceName : Option String
  uniqueServiceId : Option String
  address : Option String
  tags : Option (List String)

def shape : RecordShape Draft Registration where
  expected := "struct ServiceRegistration"
  expectedLong := "struct ServiceRegistration with 4 elements"
  closed := false
  fields := [
    .of "service_name" (·.serviceName) (fun d x => { d with serviceName := x }) .string false,
    .of "unique_service_id" (·.uniqueServiceId) (fun d x => { d with uniqueServiceId := x })
      .string false,
    .of "address" (·.address) (fun d x => { d with address := x }) .string false,
    .of "tags" (·.tags) (fun d x => { d with tags := x }) (.list .string) false]
  empty := ⟨none, none, none, none⟩
  finish := fun d => do
    let serviceName ← require "service_name" d.serviceName
    let uniqueServiceId ← require "unique_service_id" d.uniqueServiceId
    let address ← require "address" d.address
    let tags ← require "tags" d.tags
    .ok { serviceName, uniqueServiceId, address, tags }

def decoder : Decoder Registration := shape.decoder

end Registration

namespace TimingKey

def value (k : TimingKey) : Value :=
  .object [("context", .text k.context), ("stopwatch", .text k.stopwatch)]

def shape : RecordShape (Pair String String) TimingKey where
  expected := "struct TimingKey"
  expectedLong := "struct TimingKey with 2 elements"
  closed := false
  fields := [Pair.firstField "context" .string, Pair.secondField "stopwatch" .string false]
  empty := .empty
  finish := fun p => do
    let context ← require "context" p.first
    let stopwatch ← require "stopwatch" p.second
    .ok { context, stopwatch }

def decoder : Decoder TimingKey := shape.decoder

end TimingKey

/-- Seconds and nanoseconds as one number of nanoseconds, unless the seconds together with
the whole seconds among the nanoseconds exceed 64 bits. -/
def wholeNanos (what : String) (secs nanos : Nat) : Except Failure Nat :=
  if secs + nanos / 1000000000 < 0x10000000000000000 then .ok (secs * 1000000000 + nanos)
  else refuse (.overflow what)

namespace Span

def value (d : Span) : Value :=
  .object [("secs", .natural d.seconds), ("nanos", .natural d.subsecond)]

def shape : RecordShape (Pair Nat Nat) Span where
  expected := "struct Duration"
  expectedLong := "struct Duration"
  closed := true
  fields := [Pair.firstField "secs" .word64, Pair.secondField "nanos" .word32 false]
  empty := .empty
  finish := fun p => do
    let secs ← require "secs" p.first
    let nanos ← require "nanos" p.second
    let total ← wholeNanos "Duration" secs nanos
    .ok (ofNanosOrMax total)

def decoder : Decoder Span := shape.decoder

end Span

namespace Timestamp

def value (t : Timestamp) : Value :=
  .object [("secs_since_epoch", .natural (t.nanos / 1000000000)),
    ("nanos_since_epoch", .natural (t.nanos % 1000000000))]

def shape : RecordShape (Pair Nat Nat) Nat where
  expected := "struct SystemTime"
  expectedLong := "struct SystemTime"
  closed := true
  fields := [Pair.firstField "secs_since_epoch" .word64,
    Pair.secondField "nanos_since_epoch" .word32 false]
  empty := .empty
  finish := fun p => do
    let secs ← require "secs_since_epoch" p.first
    let nanos ← require "nanos_since_epoch" p.second
    wholeNanos "SystemTime epoch offset" secs nanos

def decoder : Decoder Timestamp := fun lim s => do
  let (nanos, rest) ← shape.decoder lim s
  match ofNanos? nanos with
  | some t => .ok (t, rest)
  | none => refuse (.overflow "SystemTime")

end Timestamp

namespace TimingSample

def value (s : TimingSample) : Value :=
  .object [("key", s.key.value), ("duration", s.duration.value),
    ("observed_at", s.observedAt.value)]

/-- A sample that is being filled. -/
structure Draft where
  key : Option TimingKey
  duration : Option Span
  observedAt : Option Timestamp

def shape : RecordShape Draft TimingSample where
  expected := "struct TimingSample"
  expectedLong := "struct TimingSample with 3 elements"
  closed := false
  fields := [
    .of "key" (·.key) (fun d x => { d with key := x }) TimingKey.decoder false,
    .of "duration" (·.duration) (fun d x => { d with duration := x }) Span.decoder false,
    .of "observed_at" (·.observedAt) (fun d x => { d with observedAt := x })
      Timestamp.decoder false]
  empty := ⟨none, none, none⟩
  finish := fun d => do
    let key ← require "key" d.key
    let duration ← require "duration" d.duration
    let observedAt ← require "observed_at" d.observedAt
    .ok { key, duration, observedAt }

def decoder : Decoder TimingSample := shape.decoder

end TimingSample

namespace ProcessRequest

def value (r : ProcessRequest) : Value :=
  .object [("event_id", .text r.eventId), ("params", .object r.params)]

def shape : RecordShape (Pair String Members) ProcessRequest where
  expected := "struct ProcessRequest"
  expectedLong := "struct ProcessRequest with 2 elements"
  closed := false
  fields := [Pair.firstField "event_id" .string, Pair.secondField "params" .members true]
  empty := .empty
  finish := fun p => do
    let eventId ← require "event_id" p.first
    .ok ⟨eventId, p.second.getD []⟩

def decoder : Decoder ProcessRequest := shape.decoder

end ProcessRequest

/-- Reads a whole document of one type. -/
def readDocument {α : Type} (decoder : Decoder α) (s : List UInt8) : Except Failure α :=
  document decoder s

end ProcessorHost
