import ProcessorHost.Json.Reader

/-!
# Reading values of known types

A decoder reads a value of one type straight from the bytes, so the first fault of the
text, of its grammar or of its content, is the one that is reported. Records are read from
objects, with their fields in any order, or from arrays, with their fields in order.
-/

namespace ProcessorHost.Json

/-- Reads a value of one type under the limits of its document. -/
abbrev Decoder (α : Type) := Limits → Reader α

/-- The kind of the value at the front of a text that starts with no blank. -/
def foundValue (size : Nat) (s : List UInt8) : Except Failure Found :=
  match s with
  | [] => refuse .expectedValue
  | b :: rest =>
    if b = ascii 'n' then do
      let _ ← word (bytesOf "ull") rest
      .ok .null
    else if b = ascii 't' then do
      let _ ← word (bytesOf "rue") rest
      .ok (.bool true)
    else if b = ascii 'f' then do
      let _ ← word (bytesOf "alse") rest
      .ok (.bool false)
    else if b = ascii '-' || isDigit b then do
      let (n, _) ← number s
      .ok (match n with
        | .integer n => .integer n
        | .binary x => .binary x)
    else if b = ascii '"' then do
      let (t, _) ← text size rest
      .ok (.text t)
    else if b = ascii '[' then .ok .sequence
    else if b = ascii '{' then .ok .map
    else refuse .expectedValue

/-- Refuses the value at the front of a text because something else was expected. -/
def mismatch {α : Type} (lim : Limits) (expected : String) (s : List UInt8) : Except Failure α := do
  let found ← foundValue lim.size s
  refuse (.wrongKind found expected)

namespace Decoder

/-- Reads inside a container, if one more may be entered. -/
def nested {α : Type} (lim : Limits) (read : Limits → Except Failure α) : Except Failure α :=
  match lim.room with
  | 0 => refuse .nestingTooDeep
  | room + 1 => read { lim with room }

/-- Any value. -/
def any : Decoder Value := fun lim => value lim.size lim.room

/-- A text, called so where it is missed. -/
def textAs (expected : String) : Decoder String := fun lim s =>
  match skipSpace s with
  | [] => refuse .endInValue
  | b :: rest =>
    if b = ascii '"' then text lim.size rest else mismatch lim expected (b :: rest)

def string : Decoder String := textAs "a string"

/-- A natural number below a bound. -/
def naturalBelow (bound : Nat) (expected : String) : Decoder Nat := fun lim s =>
  match skipSpace s with
  | [] => refuse .endInValue
  | b :: rest =>
    if b = ascii '-' || isDigit b then do
      let (n, rest) ← number (b :: rest)
      match n with
      | .integer n =>
        if 0 ≤ n ∧ n.toNat < bound then .ok (n.toNat, rest) else refuse (.outOfRange n expected)
      | .binary x => refuse (.wrongKind (.binary x) expected)
    else mismatch lim expected (b :: rest)

def word64 : Decoder Nat := naturalBelow 0x10000000000000000 "u64"

def word32 : Decoder Nat := naturalBelow 0x100000000 "u32"

/-- An array of values of one type. -/
def list {α : Type} (item : Decoder α) : Decoder (List α) := fun lim s =>
  match skipSpace s with
  | [] => refuse .endInValue
  | b :: rest =>
    if b = ascii '[' then nested lim fun lim => arrayOf lim.size (item lim) rest
    else mismatch lim "a sequence" (b :: rest)

/-- An object with values of one type under any keys. -/
def dictionary {α : Type} (item : Decoder α) : Decoder (List (String × α)) := fun lim s =>
  match skipSpace s with
  | [] => refuse .endInValue
  | b :: rest =>
    if b = ascii '{' then nested lim fun lim => objectOf lim.size (item lim) rest
    else mismatch lim "a map" (b :: rest)

/-- An object with any values. -/
def members : Decoder Members := dictionary any

end Decoder

/-- A field of a record that is being filled. -/
structure FieldSpec (σ : Type) where
  name : String
  /-- Whether the field has been filled. -/
  filled : σ → Bool
  /-- Reads the field and fills it. -/
  fill : σ → Decoder σ
  /-- Whether an array may end before the field. -/
  optional : Bool

namespace FieldSpec

/-- A field by its place in the record. -/
def of {σ β : Type} (name : String) (get : σ → Option β) (set : σ → Option β → σ)
    (decoder : Decoder β) (optional : Bool) : FieldSpec σ :=
  { name
    filled := fun draft => (get draft).isSome
    fill := fun draft lim s => do
      let (b, rest) ← decoder lim s
      .ok (set draft (some b), rest)
    optional }

end FieldSpec

/-- How a record is read. -/
structure RecordShape (σ α : Type) where
  /-- What is missed where something else stands. -/
  expected : String
  /-- What is missed where an array is too short. -/
  expectedLong : String
  /-- Whether keys that are no field are refused. -/
  closed : Bool
  fields : List (FieldSpec σ)
  empty : σ
  /-- Checks that no field is missing and makes the record. -/
  finish : σ → Except Failure α

namespace RecordShape

variable {σ α : Type}

/-- Reads one member of the record's object. -/
def readMember (shape : RecordShape σ α) (lim : Limits) (draft : σ) (key : String) : Reader σ :=
  fun s =>
    match shape.fields.find? fun field => field.name = key with
    | some field =>
      if field.filled draft then refuse (.duplicateField key)
      else memberValue key (field.fill draft lim) s
    | none =>
      if shape.closed then refuse (.unknownField key (shape.fields.map (·.name)))
      else do
        let (_, rest) ← memberValue key (skipValue lim.size) s
        .ok (draft, rest)

/-- Reads the fields in order from an array whose closing bracket is left. -/
def readItems (shape : RecordShape σ α) (lim : Limits) (draft : σ) (first : Bool) (n : Nat) :
    List (FieldSpec σ) → Reader σ
  | [], s => .ok (draft, s)
  | field :: fields, s =>
    match nextItem first s with
    | .error e => .error e
    | .ok (true, rest) =>
      match within (.index n) (field.fill draft lim rest) with
      | .error e => .error e
      | .ok (draft, rest) => readItems shape lim draft false (n + 1) fields rest
    | .ok (false, rest) =>
      if field.optional then readItems shape lim draft first (n + 1) fields rest
      else refuse (.wrongLength n shape.expectedLong)

/-- Reads a record from an object or an array. -/
def decoder (shape : RecordShape σ α) : Decoder α := fun lim s =>
  match skipSpace s with
  | [] => refuse .endInValue
  | b :: rest =>
    if b = ascii '{' then
      Decoder.nested lim fun lim => do
        let (draft, rest) ← mapEntries lim.size (shape.readMember lim) shape.empty true
          (lim.size + 1) rest
        let a ← shape.finish draft
        let (_, rest) ← endOfMap rest
        .ok (a, rest)
    else if b = ascii '[' then
      Decoder.nested lim fun lim => do
        let (draft, rest) ← shape.readItems lim shape.empty true 0 shape.fields rest
        let a ← shape.finish draft
        let (_, rest) ← endOfSequence rest
        .ok (a, rest)
    else mismatch lim shape.expected (b :: rest)

end RecordShape

/-- The field's content, which must be there. -/
def require {β : Type} (name : String) : Option β → Except Failure β
  | some b => .ok b
  | none => refuse (.missingField name)

end ProcessorHost.Json
