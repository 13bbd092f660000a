import ProcessorHost.Json.Numeral

/-!
# Reading JSON values

`sequenceItems` and `mapEntries` read the inside of an array and of an object for any
reader of what stands in them; `value` uses them with itself, one level of nesting less at
each step. `skipValue` passes over a value of any depth.
-/

namespace ProcessorHost.Json

/-- Limits that hold while a document is read. -/
structure Limits where
  /-- At least the number of bytes of the document. -/
  size : Nat
  /-- How many more containers may be entered. -/
  room : Nat

namespace Limits

/-- Containers may be nested this deep. -/
def depth : Nat := 127

def ofBytes (s : List UInt8) : Limits := ⟨s.length, depth⟩

end Limits

/-- Whether another item follows, given whether it would be the first; the text then starts
with that item. -/
def nextItem (first : Bool) (s : List UInt8) : Except Failure (Bool × List UInt8) :=
  match skipSpace s with
  | [] => refuse .endInList
  | b :: rest =>
    if b = ascii ']' then .ok (false, b :: rest)
    else if first then .ok (true, b :: rest)
    else if b = ascii ',' then
      match skipSpace rest with
      | [] => refuse .endInValue
      | c :: rest => if c = ascii ']' then refuse .trailingComma else .ok (true, c :: rest)
    else refuse .expectedListCommaOrEnd

/-- Whether another key follows; the text then starts after its quotation mark. -/
def nextKey (first : Bool) (s : List UInt8) : Except Failure (Bool × List UInt8) :=
  match skipSpace s with
  | [] => refuse .endInObject
  | b :: rest =>
    if b = ascii '}' then .ok (false, b :: rest)
    else if first then
      if b = ascii '"' then .ok (true, rest) else refuse .keyNotText
    else if b = ascii ',' then
      match skipSpace rest with
      | [] => refuse .endInValue
      | c :: rest =>
        if c = ascii '"' then .ok (true, rest)
        else if c = ascii '}' then refuse .trailingComma
        else refuse .keyNotText
    else refuse .expectedObjectCommaOrEnd

/-- The colon between a key and its value. -/
def colon : Reader Unit := fun s =>
  match skipSpace s with
  | [] => refuse .endInObject
  | b :: rest => if b = ascii ':' then .ok ((), rest) else refuse .expectedColon

/-- The end of an array whose reader has what it needs. -/
def endOfSequence : Reader Unit := fun s =>
  match skipSpace s with
  | [] => refuse .endInList
  | b :: rest =>
    if b = ascii ']' then .ok ((), rest)
    else if b = ascii ',' then
      match skipSpace rest with
      | c :: _ => if c = ascii ']' then refuse .trailingComma else refuse .trailingCharacters
      | [] => refuse .trailingCharacters
    else refuse .trailingCharacters

/-- The end of an object whose reader has what it needs. -/
def endOfMap : Reader Unit := fun s =>
  match skipSpace s with
  | [] => refuse .endInObject
  | b :: rest =>
    if b = ascii '}' then .ok ((), rest)
    else if b = ascii ',' then refuse .trailingComma
    else refuse .trailingCharacters

/-- The result with the failure seen from outside a part. -/
def within {α : Type} (segment : Segment) : Except Failure α → Except Failure α
  | .ok a => .ok a
  | .error e => .error (e.inside segment)

/-- The items of an array up to its closing bracket, which is left. -/
def sequenceItems {α : Type} (item : Reader α) (done : List α) (first : Bool) (n : Nat) :
    Nat → Reader (List α)
  | 0, _ => refuse .endInList
  | fuel + 1, s =>
    match nextItem first s with
    | .error e => .error e
    | .ok (false, rest) => .ok (done.reverse, rest)
    | .ok (true, rest) =>
      match item rest with
      | .error e => .error (e.inside (.index n))
      | .ok (a, rest) => sequenceItems item (a :: done) false (n + 1) fuel rest

/-- Folds the members of an object up to its closing brace, which is left. The step reads
the colon and the value that belong to the key. -/
def mapEntries {σ : Type} (size : Nat) (step : σ → String → Reader σ) (state : σ)
    (first : Bool) : Nat → Reader σ
  | 0, _ => refuse .endInObject
  | fuel + 1, s =>
    match nextKey first s with
    | .error e => .error (e.inside .unknown)
    | .ok (false, rest) => .ok (state, rest)
    | .ok (true, rest) =>
      match text size rest with
      | .error e => .error (e.inside .unknown)
      | .ok (key, rest) =>
        match step state key rest with
        | .error e => .error e
        | .ok (state, rest) => mapEntries size step state false fuel rest

/-- Reads the value after a key. The colon between them belongs to neither. -/
def memberValue {α : Type} (key : String) (item : Reader α) : Reader α := fun s => do
  let (_, rest) ← colon s
  within (.key key) (item rest)

/-- An array, after its opening bracket. -/
def arrayOf {α : Type} (size : Nat) (item : Reader α) : Reader (List α) := fun s => do
  let (items, rest) ← sequenceItems item [] true 0 (size + 1) s
  let (_, rest) ← endOfSequence rest
  .ok (items, rest)

/-- An object after its opening brace, with its members in increasing order of their keys;
of two with one key the last. -/
def objectOf {α : Type} (size : Nat) (item : Reader α) : Reader (List (String × α)) := fun s => do
  let (members, rest) ← mapEntries size
    (fun members key s => do
      let (v, rest) ← memberValue key item s
      .ok (Keyed.insert key v members, rest))
    [] true (size + 1) s
  let (_, rest) ← endOfMap rest
  .ok (members, rest)

/-- A value that is no container; `container` decides about the others. -/
def scalarOr (size : Nat) (container : Bool → Reader Value) : Reader Value := fun s =>
  match skipSpace s with
  | [] => refuse .endInValue
  | b :: rest =>
    if b = ascii 'n' then do
      let (_, rest) ← word (bytesOf "ull") rest
      .ok (.null, rest)
    else if b = ascii 't' then do
      let (_, rest) ← word (bytesOf "rue") rest
      .ok (.bool true, rest)
    else if b = ascii 'f' then do
      let (_, rest) ← word (bytesOf "alse") rest
      .ok (.bool false, rest)
    else if b = ascii '-' || isDigit b then do
      let (n, rest) ← number (b :: rest)
      .ok (.number n, rest)
    else if b = ascii '"' then do
      let (t, rest) ← text size rest
      .ok (.text t, rest)
    else if b = ascii '[' then container true rest
    else if b = ascii '{' then container false rest
    else refuse .expectedValue

/-- Reads a value with so many levels of containers at most. -/
def value (size : Nat) : Nat → Reader Value
  | 0 => scalarOr size fun _ _ => refuse .nestingTooDeep
  | room + 1 => scalarOr size fun isArray s =>
    if isArray then do
      let (items, rest) ← arrayOf size (value size room) s
      .ok (.array items, rest)
    else do
      let (members, rest) ← objectOf size (value size room) s
      .ok (.object members, rest)

/-- Passes over a value that is no container; tells whether a container of the given kind
was entered instead. -/
def skipScalar (size : Nat) : Reader (Option Bool) := fun s =>
  match skipSpace s with
  | [] => refuse .endInValue
  | b :: rest =>
    if b = ascii 'n' then do
      let (_, rest) ← word (bytesOf "ull") rest
      .ok (none, rest)
    else if b = ascii 't' then do
      let (_, rest) ← word (bytesOf "rue") rest
      .ok (none, rest)
    else if b = ascii 'f' then do
      let (_, rest) ← word (bytesOf "alse") rest
      .ok (none, rest)
    else if b = ascii '-' then do
      let (_, rest) ← skipNumber rest
      .ok (none, rest)
    else if isDigit b then do
      let (_, rest) ← skipNumber (b :: rest)
      .ok (none, rest)
    else if b = ascii '"' then do
      let (_, rest) ← skipText (size + 1) rest
      .ok (none, rest)
    else if b = ascii '[' then .ok (some true, rest)
    else if b = ascii '{' then .ok (some false, rest)
    else refuse .expectedValue

/-- Passes over a key and its colon. -/
def skipKey (size : Nat) : Reader Unit := fun s =>
  match skipSpace s with
  | [] => refuse .endInObject
  | b :: rest =>
    if b = ascii '"' then do
      let (_, rest) ← skipText (size + 1) rest
      colon rest
    else refuse .keyNotText

/-- What follows in a container. -/
inductive Onward
  /-- Another value, before whose key the text stands in an object. -/
  | more
  /-- The container has ended. -/
  | closed

/-- Looks for a comma or the end of a container, which is an array or not. -/
def onward (comma isArray : Bool) (s : List UInt8) : Except Failure (Onward × List UInt8) :=
  match skipSpace s with
  | [] => refuse (if isArray then .endInList else .endInObject)
  | b :: rest =>
    if comma && b = ascii ',' then .ok (.more, rest)
    else if b = (if isArray then ascii ']' else ascii '}') then .ok (.closed, rest)
    else if comma then
      refuse (if isArray then .expectedListCommaOrEnd else .expectedObjectCommaOrEnd)
    else .ok (.more, b :: rest)

/-- Passes over the rest of the containers that were entered, innermost first; `comma` says
that a value was just passed, `pending` that one has to follow. -/
def skipRest (size : Nat) (pending comma : Bool) (enclosing : List Bool) : Nat → Reader Unit
  | 0, _ => refuse .endInValue
  | fuel + 1, s =>
    if pending then
      match skipScalar size s with
      | .error e => .error e
      | .ok (some kind, rest) => skipRest size false false (kind :: enclosing) fuel rest
      | .ok (none, rest) => skipRest size false true enclosing fuel rest
    else
      match enclosing with
      | [] => .ok ((), s)
      | kind :: outer =>
        match onward comma kind s with
        | .error e => .error e
        | .ok (.closed, rest) => skipRest size false true outer fuel rest
        | .ok (.more, rest) =>
          if kind then skipRest size true true enclosing fuel rest
          else
            match skipKey size rest with
            | .error e => .error e
            | .ok (_, rest) => skipRest size true true enclosing fuel rest

/-- Passes over a value. Only its grammar is checked, at any depth. -/
def skipValue (size : Nat) : Reader Unit := skipRest size true false [] (2 * size + 4)

/-- Nothing but blanks may follow a document. -/
def documentEnd (s : List UInt8) : Except Failure Unit :=
  if (skipSpace s).isEmpty then .ok () else refuse .trailingCharacters

/-- Reads a whole document. -/
def document {α : Type} (read : Limits → Reader α) (s : List UInt8) : Except Failure α := do
  let (a, rest) ← read (.ofBytes s) s
  let _ ← documentEnd rest
  .ok a

end ProcessorHost.Json
