import ProcessorHost.Json.Fault

/-!
# Tokens of JSON texts

Each reader takes bytes from the front of the text and returns what it read together with
the bytes that follow. Texts are checked to be well-formed only after their closing
quotation mark. A reader with a loop is given a bound on the number of rounds: every
round takes at least one byte, so the number of bytes left is enough.
-/

namespace ProcessorHost.Json

/-- A reader takes bytes from the front of a text. -/
abbrev Reader (α : Type) := List UInt8 → Except Failure (α × List UInt8)

def refuse {α : Type} (fault : Fault) : Except Failure α := .error (.of fault)

/-- The four blanks of the format. -/
def isSpace (b : UInt8) : Bool := b == 32 || b == 10 || b == 9 || b == 13

/-- The text from its first byte on that is no blank. -/
def skipSpace (s : List UInt8) : List UInt8 := s.dropWhile isSpace

def isDigit (b : UInt8) : Bool := 48 ≤ b && b ≤ 57

def digitValue (b : UInt8) : Nat := b.toNat - 48

/-- The value of a hexadecimal digit. -/
def hexValue? (b : UInt8) : Option Nat :=
  if isDigit b then some (b.toNat - 48)
  else if 97 ≤ b && b ≤ 102 then some (b.toNat - 87)
  else if 65 ≤ b && b ≤ 70 then some (b.toNat - 55)
  else none

/-- The rest of a word whose first letter was read. -/
def word : List UInt8 → Reader Unit
  | [], s => .ok ((), s)
  | _ :: _, [] => refuse .endInValue
  | c :: cs, b :: rest => if b = c then word cs rest else refuse .expectedIdentifier

/-- The four digits of an escape. -/
def hexEscape : Reader Nat
  | a :: b :: c :: d :: rest =>
    match hexValue? a, hexValue? b, hexValue? c, hexValue? d with
    | some a, some b, some c, some d => .ok (((a * 16 + b) * 16 + c) * 16 + d, rest)
    | _, _, _, _ => refuse .invalidEscape
  | _ => refuse .endInText

/-- The bytes of a code point that is not a surrogate. -/
def codePointBytes (n : Nat) : List UInt8 := String.utf8EncodeChar (Char.ofNat n)

/-- The character of an escape with digits; one beyond 16 bits takes two of them. -/
def unicodeEscape (s : List UInt8) : Except Failure (List UInt8 × List UInt8) := do
  let (n, rest) ← hexEscape s
  if 0xdc00 ≤ n ∧ n ≤ 0xdfff then refuse .loneSurrogate
  else if n < 0xd800 ∨ 0xdbff < n then .ok (codePointBytes n, rest)
  else
    match rest with
    | [] => refuse .endInText
    | b :: rest =>
      if b ≠ ascii '\\' then refuse .endOfHexEscape
      else
        match rest with
        | [] => refuse .endInText
        | b :: rest =>
          if b ≠ ascii 'u' then refuse .endOfHexEscape
          else do
            let (m, rest) ← hexEscape rest
            if m < 0xdc00 ∨ 0xdfff < m then refuse .loneSurrogate
            else .ok (codePointBytes ((n - 0xd800) * 1024 + (m - 0xdc00) + 0x10000), rest)

/-- The byte that a letter after a backslash stands for. -/
def plainEscape? (b : UInt8) : Option UInt8 :=
  if b = ascii '"' then some b
  else if b = ascii '\\' then some b
  else if b = ascii '/' then some b
  else if b = ascii 'b' then some 8
  else if b = ascii 'f' then some 12
  else if b = ascii 'n' then some 10
  else if b = ascii 'r' then some 13
  else if b = ascii 't' then some 9
  else none

/-- What an escape stands for, after its backslash. -/
def escape : Reader (List UInt8)
  | [] => refuse .endInText
  | b :: rest =>
    match plainEscape? b with
    | some c => .ok ([c], rest)
    | none => if b = ascii 'u' then unicodeEscape rest else refuse .invalidEscape

/-- The bytes of a text up to its closing quotation mark; `done` holds those read, the last
one first. -/
def textBody (done : List UInt8) : Nat → Reader (List UInt8)
  | 0, _ => refuse .endInText
  | _ + 1, [] => refuse .endInText
  | fuel + 1, b :: rest =>
    if b = ascii '"' then .ok (done.reverse, rest)
    else if b = ascii '\\' then
      match escape rest with
      | .ok (bytes, rest) => textBody (bytes.reverse ++ done) fuel rest
      | .error e => .error e
    else if b < 32 then refuse .controlCharacter
    else textBody (b :: done) fuel rest

/-- A text after its opening quotation mark; `size` is at least the number of bytes left. -/
def text (size : Nat) (s : List UInt8) : Except Failure (String × List UInt8) :=
  match textBody [] (size + 1) s with
  | .error e => .error e
  | .ok (bytes, rest) =>
    match textOf? bytes with
    | some t => .ok (t, rest)
    | none => refuse .invalidCodePoint

/-- Passes over a text after its opening quotation mark; surrogates need not be paired and
the bytes need not be well-formed. -/
def skipText : Nat → Reader Unit
  | 0, _ => refuse .endInText
  | _ + 1, [] => refuse .endInText
  | fuel + 1, b :: rest =>
    if b = ascii '"' then .ok ((), rest)
    else if b = ascii '\\' then
      match rest with
      | [] => refuse .endInText
      | c :: rest =>
        if (plainEscape? c).isSome then skipText fuel rest
        else if c = ascii 'u' then
          match hexEscape rest with
          | .ok (_, rest) => skipText fuel rest
          | .error e => .error e
        else refuse .invalidEscape
    else if b < 32 then refuse .controlCharacter
    else skipText fuel rest

end ProcessorHost.Json
