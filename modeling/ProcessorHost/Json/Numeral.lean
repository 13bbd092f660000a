import ProcessorHost.Json.Scan

/-!
# Numbers in JSON texts

An integer that fits 64 bits is read exactly. Any other number is read as a significand of
at most 64 bits, with the digits that do not fit left out, and a power of ten; the
significand is rounded to a binary number and then multiplied or divided by that power.
-/

namespace ProcessorHost.Json

/-- Significands lie below `2 ^ 64`. -/
def significandLimit : Nat := 0x10000000000000000

/-- Exponents are kept between `- 2 ^ 31` and `2 ^ 31 - 1`. -/
def clampExponent (e : Int) : Int := max (-0x80000000) (min e (0x80000000 - 1))

/-- Decimal exponents beyond this are applied in several steps. -/
def largestPower : Nat := 308

/-- The binary number nearest to `10 ^ k`. -/
def powerOfTen (k : Nat) : Binary64 := Binary64.ofNat (Nat.pow 10 k)

/-- The powers of ten beyond the largest single one, dividing step by step. -/
def shrink (x : Binary64) : Nat → Nat → Binary64
  | 0, _ => x
  | rounds + 1, e =>
    if e ≤ largestPower then (x.div? (powerOfTen e)).getD x
    else if x.isZero then x
    else shrink ((x.div? (powerOfTen largestPower)).getD x) rounds (e - largestPower)

/-- The magnitude `significand * 10 ^ e`; nothing when it is too large. -/
def magnitude? (significand : Nat) (e : Int) : Option Binary64 :=
  let x := Binary64.ofNat significand
  if e < 0 then some (shrink x 8 e.natAbs)
  else if e.toNat ≤ largestPower then x.mul? (powerOfTen e.toNat)
  else if x.isZero then some x
  else none

/-- The number with a sign, a significand and an exponent. -/
def binaryNumber (negative : Bool) (significand : Nat) (e : Int) : Except Failure Number :=
  match magnitude? significand e with
  | some x => .ok (.binary { x with negative })
  | none => refuse .numberOutOfRange

/-- The digits at the front of a text, added to a significand as long as it stays below the
limit, with the number of digits taken and the text after them. -/
def takeDigits (significand taken : Nat) : List UInt8 → Nat × Nat × List UInt8
  | [] => (significand, taken, [])
  | b :: rest =>
    if isDigit b && significand * 10 + digitValue b < significandLimit then
      takeDigits (significand * 10 + digitValue b) (taken + 1) rest
    else (significand, taken, b :: rest)

/-- The number of digits at the front of a text, and the text after them. -/
def countDigits (n : Nat) : List UInt8 → Nat × List UInt8
  | [] => (n, [])
  | b :: rest => if isDigit b then countDigits (n + 1) rest else (n, b :: rest)

/-- The digits of an exponent, up to the largest that is kept; nothing when they exceed it. -/
def exponentDigits (e : Nat) : List UInt8 → Option Nat × List UInt8
  | [] => (some e, [])
  | b :: rest =>
    if isDigit b then
      let e := e * 10 + digitValue b
      if e < 0x80000000 then exponentDigits e rest else (none, rest)
    else (some e, b :: rest)

/-- The exponent part of a number, after its letter. -/
def exponentPart (negative : Bool) (significand : Nat) (start : Int) : Reader Number := fun s =>
  let (down, s) := match s with
    | b :: rest =>
      if b = ascii '+' then (false, rest)
      else if b = ascii '-' then (true, rest)
      else (false, s)
    | [] => (false, s)
  match s with
  | [] => refuse .endInValue
  | b :: rest =>
    if isDigit b then
      match exponentDigits (digitValue b) rest with
      | (some e, rest) => do
        let e : Int := if down then start - e else start + e
        let n ← binaryNumber negative significand (clampExponent e)
        .ok (n, rest)
      | (none, rest) =>
        if significand ≠ 0 ∧ ¬ down then refuse .numberOutOfRange
        else .ok (.binary (.zero negative), (countDigits 0 rest).2)
    else refuse .invalidNumber

/-- The exponent part of a number, if one follows. -/
def exponentAfter (negative : Bool) (significand : Nat) (e : Int) : Reader Number := fun s =>
  let plain : Except Failure (Number × List UInt8) := do
    let n ← binaryNumber negative significand e
    .ok (n, s)
  match s with
  | b :: rest =>
    if b = ascii 'e' || b = ascii 'E' then exponentPart negative significand e rest else plain
  | [] => plain

/-- The decimals of a number, after the point. -/
def decimals (negative : Bool) (significand : Nat) (before : Int) : Reader Number := fun s =>
  let (significand, taken, rest) := takeDigits significand 0 s
  match rest with
  | [] =>
    if taken = 0 then refuse .endInValue
    else exponentAfter negative significand (before - taken) rest
  | b :: _ =>
    if isDigit b then exponentAfter negative significand (before - taken) (countDigits 0 rest).2
    else if taken = 0 then refuse .invalidNumber
    else exponentAfter negative significand (before - taken) rest

/-- An integer without decimals and exponent. -/
def integerNumber (negative : Bool) (significand : Nat) : Number :=
  if negative then
    if significand = 0 ∨ 0x8000000000000000 < significand then
      .binary { Binary64.ofNat significand with negative := true }
    else .integer (-(significand : Int))
  else .integer significand

/-- What follows the integer digits of a number. -/
def afterInteger (negative : Bool) (significand : Nat) : Reader Number := fun s =>
  match s with
  | b :: rest =>
    if b = ascii '.' then decimals negative significand 0 rest
    else if b = ascii 'e' || b = ascii 'E' then exponentPart negative significand 0 rest
    else if isDigit b then
      let (skipped, rest) := countDigits 0 s
      match rest with
      | c :: rest' =>
        if c = ascii '.' then decimals negative significand skipped rest'
        else exponentAfter negative significand skipped rest
      | [] => exponentAfter negative significand skipped rest
    else .ok (integerNumber negative significand, s)
  | [] => .ok (integerNumber negative significand, s)

/-- A number after its sign. A number has no leading zeros. -/
def unsignedNumber (negative : Bool) : Reader Number
  | [] => refuse .endInValue
  | b :: rest =>
    if b = ascii '0' then
      match rest with
      | c :: _ => if isDigit c then refuse .invalidNumber else afterInteger negative 0 rest
      | [] => afterInteger negative 0 rest
    else if isDigit b then
      let (significand, _, rest) := takeDigits (digitValue b) 0 rest
      afterInteger negative significand rest
    else refuse .invalidNumber

/-- A number whose first byte is a digit or a minus sign. -/
def number : Reader Number
  | [] => refuse .endInValue
  | b :: rest =>
    if b = ascii '-' then unsignedNumber true rest else unsignedNumber false (b :: rest)

/-- Passes over an exponent part, if one follows. -/
def skipExponent : Reader Unit := fun s =>
  match s with
  | b :: rest =>
    if b = ascii 'e' || b = ascii 'E' then
      let rest := match rest with
        | c :: after => if c = ascii '+' || c = ascii '-' then after else rest
        | [] => rest
      let (n, rest) := countDigits 0 rest
      if n = 0 then refuse .invalidNumber else .ok ((), rest)
    else .ok ((), s)
  | [] => .ok ((), s)

/-- Passes over decimals and an exponent part, if they follow. -/
def skipFraction : Reader Unit := fun s =>
  match s with
  | b :: rest =>
    if b = ascii '.' then
      let (n, rest) := countDigits 0 rest
      if n = 0 then refuse .invalidNumber else skipExponent rest
    else skipExponent s
  | [] => .ok ((), s)

/-- Passes over a number after its sign. Its size does not matter. -/
def skipNumber : Reader Unit
  | [] => refuse .invalidNumber
  | b :: rest =>
    if b = ascii '0' then
      match rest with
      | c :: _ => if isDigit c then refuse .invalidNumber else skipFraction rest
      | [] => .ok ((), [])
    else if isDigit b then skipFraction (countDigits 0 rest).2
    else refuse .invalidNumber

end ProcessorHost.Json
