import ProcessorHost.Json.Printer
import ProcessorHost.Text.Quoted

/-!
# What can be wrong with a JSON text

A fault is the cause for which a text is refused. Faults of the grammar come from the
bytes alone; the others say how a well-formed value differs from what was expected.
-/

namespace ProcessorHost.Json

/-- A value that was found where another kind was expected. -/
inductive Found
  | null
  | bool (b : Bool)
  | integer (n : Int)
  | binary (x : Binary64)
  | text (s : String)
  | sequence
  | map
deriving DecidableEq, Repr

namespace Found

def describe : Found → String
  | null => "null"
  | bool b => "boolean `" ++ (if b then "true" else "false") ++ "`"
  | integer n => "integer `" ++ toString n ++ "`"
  | binary x => "floating point `" ++ x.text ++ "`"
  | text s => "string " ++ Text.quoted s
  | sequence => "sequence"
  | map => "map"

end Found

/-- What a fault is a fault of. -/
inductive FaultClass
  /-- The text ends too early. -/
  | ended
  /-- The text is no JSON. -/
  | grammar
  /-- The value is not the expected one. -/
  | content
deriving DecidableEq, Repr

inductive Fault
  | endInList
  | endInObject
  | endInText
  | endInValue
  | expectedColon
  | expectedListCommaOrEnd
  | expectedObjectCommaOrEnd
  | expectedIdentifier
  | expectedValue
  | invalidEscape
  | invalidNumber
  | numberOutOfRange
  | invalidCodePoint
  | controlCharacter
  | keyNotText
  | loneSurrogate
  | endOfHexEscape
  | trailingComma
  | trailingCharacters
  | nestingTooDeep
  | wrongKind (found : Found) (expected : String)
  | outOfRange (n : Int) (expected : String)
  | wrongLength (n : Nat) (expected : String)
  | missingField (name : String)
  | duplicateField (name : String)
  | unknownField (name : String) (expected : List String)
  | unknownVariant (name : String) (expected : List String)
  | overflow (what : String)
deriving DecidableEq, Repr

namespace Fault

def faultClass : Fault → FaultClass
  | endInList | endInObject | endInText | endInValue => .ended
  | wrongKind .. | outOfRange .. | wrongLength .. | missingField .. | duplicateField ..
  | unknownField .. | unknownVariant .. | overflow .. => .content
  | _ => .grammar

/-- Names between backticks, two with "or", more as a list. -/
def alternatives (names : List String) : String :=
  let quoted := names.map fun name => "`" ++ name ++ "`"
  match quoted with
  | [a] => a
  | [a, b] => a ++ " or " ++ b
  | _ => "one of " ++ String.intercalate ", " quoted

def message : Fault → String
  | endInList => "EOF while parsing a list"
  | endInObject => "EOF while parsing an object"
  | endInText => "EOF while parsing a string"
  | endInValue => "EOF while parsing a value"
  | expectedColon => "expected `:`"
  | expectedListCommaOrEnd => "expected `,` or `]`"
  | expectedObjectCommaOrEnd => "expected `,` or `\x7d`"
  | expectedIdentifier => "expected ident"
  | expectedValue => "expected value"
  | invalidEscape => "invalid escape"
  | invalidNumber => "invalid number"
  | numberOutOfRange => "number out of range"
  | invalidCodePoint => "invalid unicode code point"
  | controlCharacter => "control character (\\u0000-\\u001F) found while parsing a string"
  | keyNotText => "key must be a string"
  | loneSurrogate => "lone leading surrogate in hex escape"
  | endOfHexEscape => "unexpected end of hex escape"
  | trailingComma => "trailing comma"
  | trailingCharacters => "trailing characters"
  | nestingTooDeep => "recursion limit exceeded"
  | wrongKind found expected => "invalid type: " ++ found.describe ++ ", expected " ++ expected
  | outOfRange n expected =>
    "invalid value: integer `" ++ toString n ++ "`, expected " ++ expected
  | wrongLength n expected => "invalid length " ++ toString n ++ ", expected " ++ expected
  | missingField name => "missing field `" ++ name ++ "`"
  | duplicateField name => "duplicate field `" ++ name ++ "`"
  | unknownField name expected =>
    "unknown field `" ++ name ++ "`, expected " ++ alternatives expected
  | unknownVariant name expected =>
    "unknown variant `" ++ name ++ "`, expected " ++ alternatives expected
  | overflow what => "overflow deserializing " ++ what

end Fault

/-- A step from a value to a part of it. -/
inductive Segment
  | key (name : String)
  | index (n : Nat)
  /-- A key that could not be read. -/
  | unknown
deriving DecidableEq, Repr

/-- A fault and the innermost part of the value that was being read. -/
structure Failure where
  path : List Segment
  fault : Fault
deriving DecidableEq, Repr

namespace Failure

def of (fault : Fault) : Failure := ⟨[], fault⟩

/-- The same failure seen from one level further out. -/
def inside (segment : Segment) (e : Failure) : Failure := { e with path := segment :: e.path }

/-- The path as a text: keys after points, positions in brackets. -/
def pathText : List Segment → String
  | [] => ""
  | segment :: rest =>
    let tail := rest.map fun
      | .key name => "." ++ name
      | .index n => "[" ++ toString n ++ "]"
      | .unknown => ".?"
    let head := match segment with
      | .key name => name
      | .index n => "[" ++ toString n ++ "]"
      | .unknown => "?"
    head ++ String.join tail

/-- The message after the path, which is left out when it names nothing. -/
def message (e : Failure) : String :=
  if e.path.all (· = .unknown) then e.fault.message
  else pathText e.path ++ ": " ++ e.fault.message

end Failure

end ProcessorHost.Json
