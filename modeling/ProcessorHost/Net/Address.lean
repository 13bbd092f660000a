/-!
# Network addresses

Version 4 and version 6 addresses, with and without a port, and their standard texts.
-/

namespace ProcessorHost.Net

structure Ipv4 where
  a : UInt8
  b : UInt8
  c : UInt8
  d : UInt8
deriving DecidableEq, Repr, Inhabited

namespace Ipv4

def text (ip : Ipv4) : String :=
  String.intercalate "." ([ip.a, ip.b, ip.c, ip.d].map toString)

/-- The address with the given 32 bits. -/
def ofBits (n : Nat) : Ipv4 :=
  ⟨.ofNat (n / 0x1000000), .ofNat (n / 0x10000), .ofNat (n / 0x100), .ofNat n⟩

end Ipv4

/-- Eight groups of sixteen bits. -/
structure Ipv6 where
  groups : List UInt16
  length_eq : groups.length = 8
deriving DecidableEq, Repr

namespace Ipv6

/-- The address with the given groups, of which there must be eight. -/
def ofGroups? (groups : List UInt16) : Option Ipv6 :=
  if h : groups.length = 8 then some ⟨groups, h⟩ else none

/-- The version 4 address that is embedded behind `::ffff:`. -/
def mapped? (ip : Ipv6) : Option Ipv4 :=
  match ip.groups with
  | [0, 0, 0, 0, 0, 0xffff, high, low] => some (.ofBits (high.toNat * 0x10000 + low.toNat))
  | _ => none

/-- The length of the run of zeros at the front. -/
def zeroRun (groups : List UInt16) : Nat := (groups.takeWhile (· = 0)).length

/-- The first longest run of zeros: where it starts and its length. -/
def longestZeros (start : Nat) (best : Nat × Nat) : List UInt16 → Nat × Nat
  | [] => best
  | group :: rest =>
    let run := zeroRun (group :: rest)
    longestZeros (start + 1) (if best.2 < run then (start, run) else best) rest

/-- Groups in lower-case hexadecimal digits with colons between them. -/
def groupsText (groups : List UInt16) : String :=
  String.intercalate ":" (groups.map fun g => String.ofList (Nat.toDigits 16 g.toNat))

/-- The standard text: the first longest run of two or more zeros is left out, and an
embedded version 4 address is written as one. -/
def text (ip : Ipv6) : String :=
  match ip.mapped? with
  | some v4 => "::ffff:" ++ v4.text
  | none =>
    let (start, length) := longestZeros 0 (0, 0) ip.groups
    if 1 < length then
      groupsText (ip.groups.take start) ++ "::" ++ groupsText (ip.groups.drop (start + length))
    else groupsText ip.groups

end Ipv6

inductive Ip
  | v4 (ip : Ipv4)
  | v6 (ip : Ipv6)
deriving DecidableEq, Repr

namespace Ip

def text : Ip → String
  | v4 ip => ip.text
  | v6 ip => ip.text

end Ip

/-- An address at which a host is found. A version 6 address may name a zone of the machine by its
number; zero stands for none. -/
structure HostAddress where
  ip : Ip
  zone : UInt32
deriving DecidableEq, Repr

/-- An address with a port. A version 6 address may name a zone of the host. -/
structure Endpoint where
  ip : Ip
  port : UInt16
  zone : UInt32
deriving DecidableEq, Repr

namespace Endpoint

def text (e : Endpoint) : String :=
  match e.ip with
  | .v4 ip => ip.text ++ ":" ++ toString e.port
  | .v6 ip =>
    let zone := if e.zone = 0 then "" else "%" ++ toString e.zone
    "[" ++ ip.text ++ zone ++ "]:" ++ toString e.port

end Endpoint

end ProcessorHost.Net
