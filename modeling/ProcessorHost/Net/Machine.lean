import ProcessorHost.Net.Parse

/-!
# Machines

What a program finds on the machine it runs on: names of hosts can be looked up, and it can
listen at the addresses of the machine. At no endpoint does more than one listen, where an
unspecified address stands for every address. Low ports are kept for privileged users.
-/

namespace ProcessorHost.Net

namespace Ip

/-- An embedded version 4 address is the same as that address. -/
def unmapped : Ip → Ip
  | v4 ip => v4 ip
  | v6 ip => (ip.mapped?.map v4).getD (v6 ip)

/-- Whether listening at the first address takes in the second. -/
def covers (a b : Ip) : Bool :=
  match a.unmapped, b.unmapped with
  | v4 a, v4 b => a = b || a = ⟨0, 0, 0, 0⟩
  | v6 a, v6 b => a = b || a.groups.all (· = 0)
  | v6 a, v4 _ => a.groups.all (· = 0)
  | v4 _, v6 _ => false

/-- Whether an address leads back to the machine, or is the unspecified one. -/
def isLoopback (ip : Ip) : Bool :=
  match ip.unmapped with
  | v4 ip => ip.a = 127 || ip = ⟨0, 0, 0, 0⟩
  | v6 ip => ip.groups.take 7 = List.replicate 7 0 && (ip.groups.all (· ≤ 1))

end Ip

namespace Endpoint

/-- Whether only one of two endpoints can be listened at. -/
def conflicts (a b : Endpoint) : Bool :=
  a.port = b.port && (a.ip.covers b.ip || b.ip.covers a.ip)

end Endpoint

/-- Why a machine does not listen at an endpoint. -/
inductive ListenError
  | notPermitted
  | inUse
  | notAvailable
deriving DecidableEq, Repr

namespace ListenError

def message : ListenError → String
  | notPermitted => "Permission denied (os error 13)"
  | inUse => "Address already in use (os error 98)"
  | notAvailable => "Cannot assign requested address (os error 99)"

end ListenError

structure Machine where
  lookup : HostLookup
  isOwn : Ip → Bool
  /-- Lower ports than this are kept for privileged users. -/
  firstOpenPort : Nat
  /-- The ports that are tried when any will do. -/
  freePorts : List UInt16
  listening : List Endpoint

namespace Machine

/-- A machine without a network, on which nothing listens yet. -/
def isolated : Machine where
  lookup _ := .error "failed to lookup address information: Name or service not known"
  isOwn := Ip.isLoopback
  firstOpenPort := 1024
  freePorts := (List.range 16384).map fun n => UInt16.ofNat (49152 + n)
  listening := []

/-- Whether something listens at an endpoint. -/
def isTaken (m : Machine) (e : Endpoint) : Bool := m.listening.any e.conflicts

/-- The endpoint to listen at. Port zero stands for the first free one. -/
def choose? (m : Machine) (e : Endpoint) : Option Endpoint :=
  if e.port = 0 then
    (m.freePorts.map fun port => { e with port }).find? fun e => !m.isTaken e
  else if m.isTaken e then none
  else some e

/-- Listens at an endpoint, from then on. The port is looked at first, then the address. -/
def listen (m : Machine) (e : Endpoint) : Except ListenError (Endpoint × Machine) :=
  if e.port ≠ 0 ∧ e.port.toNat < m.firstOpenPort then .error .notPermitted
  else if !m.isOwn e.ip then .error .notAvailable
  else
    match m.choose? e with
    | none => .error .inUse
    | some e => .ok (e, { m with listening := e :: m.listening })

end Machine

end ProcessorHost.Net
