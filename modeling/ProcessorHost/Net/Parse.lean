import ProcessorHost.Errors
import ProcessorHost.Net.Address
import ProcessorHost.Text.Blank

/-!
# Reading network addresses

Readers take characters from the front of a text and return what follows. Besides the
standard texts of addresses, a host may be written in the old ways of version 4: with fewer
than four parts, and with parts in octal or hexadecimal digits.
-/

namespace ProcessorHost.Net

/-- Takes characters from the front of a text. -/
abbrev Taker (α : Type) := List Char → Option (α × List Char)

/-- The value of a digit in any base up to sixteen. -/
def digit? (base : Nat) (c : Char) : Option Nat :=
  let n := c.toNat
  let value :=
    if 48 ≤ n ∧ n ≤ 57 then n - 48
    else if 97 ≤ n ∧ n ≤ 102 then n - 87
    else if 65 ≤ n ∧ n ≤ 70 then n - 55
    else 16
  if value < base then some value else none

/-- The digits at the front, as a number and their count. -/
def digits (base : Nat) (value count : Nat) : List Char → Nat × Nat × List Char
  | [] => (value, count, [])
  | c :: rest =>
    match digit? base c with
    | some d => digits base (value * base + d) (count + 1) rest
    | none => (value, count, c :: rest)

/-- A number below a limit. -/
def number (base limit : Nat) (maxDigits : Option Nat) (leadingZeros : Bool) : Taker Nat := fun s =>
  let (value, count, rest) := digits base 0 0 s
  let fits := match maxDigits with
    | none => true
    | some n => count ≤ n
  let plain := leadingZeros || count ≤ 1 || s.head? != some '0'
  if count = 0 || !fits || !plain || limit ≤ value then none else some (value, rest)

/-- One given character. -/
def symbol (c : Char) : Taker Unit
  | [] => none
  | d :: rest => if d = c then some ((), rest) else none

def octet : Taker UInt8 := fun s => do
  let (n, rest) ← number 10 256 (some 3) false s
  some (.ofNat n, rest)

def ipv4 : Taker Ipv4 := fun s => do
  let (a, s) ← octet s
  let (_, s) ← symbol '.' s
  let (b, s) ← octet s
  let (_, s) ← symbol '.' s
  let (c, s) ← octet s
  let (_, s) ← symbol '.' s
  let (d, s) ← octet s
  some (⟨a, b, c, d⟩, s)

/-- The separator before a group, unless the group is the first. -/
def separator (first : Bool) (s : List Char) : Option (List Char) :=
  if first then some s else (symbol ':' s).map (·.2)

/-- An embedded version 4 address as two groups. -/
def embedded (first : Bool) (s : List Char) : Option (List UInt16 × List Char) := do
  let s ← separator first s
  let (ip, rest) ← ipv4 s
  some ([.ofNat (ip.a.toNat * 256 + ip.b.toNat), .ofNat (ip.c.toNat * 256 + ip.d.toNat)], rest)

/-- As many groups as there are, at most the given number, and whether the last two came
from an embedded version 4 address. -/
def groups (first : Bool) : Nat → List Char → List UInt16 × Bool × List Char
  | 0, s => ([], false, s)
  | limit + 1, s =>
    let plain : List UInt16 × Bool × List Char :=
      match (separator first s).bind (number 16 65536 (some 4) true) with
      | none => ([], false, s)
      | some (g, rest) =>
        let (more, v4, rest) := groups false limit rest
        (.ofNat g :: more, v4, rest)
    if limit = 0 then plain
    else
      match embedded first s with
      | some (pair, rest) => (pair, true, rest)
      | none => plain

def ipv6 : Taker Ipv6 := fun s =>
  let (head, v4, rest) := groups true 8 s
  if h : head.length = 8 then some (⟨head, h⟩, rest)
  else if v4 then none
  else do
    let (_, rest) ← symbol ':' rest
    let (_, rest) ← symbol ':' rest
    let (tail, _, rest) := groups true (7 - head.length) rest
    let zeros := List.replicate (8 - head.length - tail.length) 0
    let ip ← Ipv6.ofGroups? (head ++ zeros ++ tail)
    some (ip, rest)

/-- The value of a reader that takes the whole text. -/
def whole? {α : Type} (take : Taker α) (s : String) : Option α :=
  match take s.toList with
  | some (a, []) => some a
  | _ => none

def Ipv4.ofText? (s : String) : Option Ipv4 := whole? ipv4 s

def Ipv6.ofText? (s : String) : Option Ipv6 := whole? ipv6 s

def portNumber : Taker UInt16 := fun s => do
  let (n, rest) ← number 10 65536 none true s
  some (.ofNat n, rest)

def endpointV4 : Taker Endpoint := fun s => do
  let (ip, s) ← ipv4 s
  let (_, s) ← symbol ':' s
  let (port, s) ← portNumber s
  some (⟨.v4 ip, port, 0⟩, s)

/-- The zone after an address, if one is named. -/
def zoneAfter (s : List Char) : Option (UInt32 × List Char) :=
  match symbol '%' s with
  | none => some (0, s)
  | some (_, s) => do
    let (n, s) ← number 10 0x100000000 none true s
    some (.ofNat n, s)

def endpointV6 : Taker Endpoint := fun s => do
  let (_, s) ← symbol '[' s
  let (ip, s) ← ipv6 s
  let (zone, s) ← zoneAfter s
  let (_, s) ← symbol ']' s
  let (_, s) ← symbol ':' s
  let (port, s) ← portNumber s
  some (⟨.v6 ip, port, zone⟩, s)

/-- A version 6 address that names a zone of the machine by its number. -/
def HostAddress.ofZonedText? (s : String) : Option HostAddress :=
  whole? (fun s => do
    let (ip, s) ← ipv6 s
    let (_, s) ← symbol '%' s
    let (zone, s) ← number 10 0x100000000 none true s
    some (⟨.v6 ip, .ofNat zone⟩, s)) s

def Endpoint.ofText? (s : String) : Option Endpoint :=
  (whole? endpointV4 s).or (whole? endpointV6 s)

/-- A number whose base shows in its first characters: `0x` for sixteen, `0` for eight. -/
def basedNumber : Taker Nat := fun s =>
  let take (base : Nat) (s : List Char) : Option (Nat × List Char) :=
    let (value, count, rest) := digits base 0 0 s
    if count = 0 then none else some (value, rest)
  match s with
  | '0' :: x :: rest =>
    if x = 'x' ∨ x = 'X' then (take 16 rest).orElse fun _ => some (0, x :: rest)
    else take 8 s
  | '0' :: rest => some (0, rest)
  | _ => take 10 s

/-- The parts of a version 4 address in one of the old ways; `taken` counts those before. -/
def legacyParts (taken value : Nat) : Nat → List Char → Option Nat
  | 0, _ => none
  | fuel + 1, s =>
    match basedNumber s with
    | none => none
    | some (part, []) =>
      if part < Nat.pow 256 (4 - taken) then some (value * Nat.pow 256 (4 - taken) + part) else none
    | some (part, '.' :: rest) =>
      if taken < 3 ∧ part < 256 then legacyParts (taken + 1) (value * 256 + part) fuel rest
      else none
    | some _ => none

/-- A version 4 address in one of the old ways. -/
def Ipv4.ofLegacyText? (s : String) : Option Ipv4 := (legacyParts 0 0 4 s.toList).map Ipv4.ofBits

/-- How names of hosts are looked up: the addresses found, or why there are none. -/
abbrev HostLookup := String → Except String (List HostAddress)

/-- What is said of a host with a character that names cannot have. -/
def nulText : String := "file name contained an unexpected NUL byte"

/-- The one address that is written in the old ways, or with a zone. -/
def HostAddress.ofOtherText? (host : String) : Option HostAddress :=
  match Ipv4.ofLegacyText? host with
  | some ip => some ⟨.v4 ip, 0⟩
  | none => ofZonedText? host

/-- The addresses of a host. -/
def addressesOf (lookup : HostLookup) (host : String) : Except String (List HostAddress) :=
  match Ipv4.ofText? host with
  | some ip => .ok [⟨.v4 ip, 0⟩]
  | none =>
    match Ipv6.ofText? host with
    | some ip => .ok [⟨.v6 ip, 0⟩]
    | none =>
      if host.toList.contains (Char.ofNat 0) then .error nulText
      else
        match HostAddress.ofOtherText? host with
        | some address => .ok [address]
        | none => lookup host

/-- The endpoint to bind for a host and a port. White space around the host does not count. -/
def Endpoint.resolve (lookup : HostLookup) (host : String) (port : UInt16) :
    Except ConfigError Endpoint :=
  let host := Text.trim host
  if host.isEmpty then .error .missingAddress
  else
    let invalid := ConfigError.invalidAddress (host ++ ":" ++ toString port)
    match addressesOf lookup host with
    | .error reason => .error (invalid reason)
    | .ok [] => .error (invalid "host resolved to no addresses")
    | .ok (address :: _) => .ok ⟨address.ip, port, address.zone⟩

end ProcessorHost.Net
