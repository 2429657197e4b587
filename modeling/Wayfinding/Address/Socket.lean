import Wayfinding.Address.Internet

/-!
# Socket addresses

An internet address together with a port. Main definition: `SocketAddress.parse?`.
-/

namespace Wayfinding

open Address

/-- Where a program listens. -/
inductive SocketAddress where
  | v4 (address : Ipv4) (port : UInt16)
  | v6 (address : Ipv6) (scope : UInt32) (port : UInt16)
deriving DecidableEq

namespace SocketAddress

/-- Reads a colon and a port, up to the end of the text. -/
def port? (cs : List Char) : Option UInt16 :=
  match takeChar? ':' cs >>= takeNumber? 10 UInt16.size with
  | some (n, []) => some (.ofNat n)
  | _ => none

/-- Reads a percent sign and the number of a scope, if there is a percent sign. -/
def takeScope? (cs : List Char) : Option (UInt32 × List Char) :=
  match takeChar? '%' cs with
  | none => some (0, cs)
  | some rest => (takeNumber? 10 UInt32.size rest).map fun r => (.ofNat r.1, r.2)

/-- Reads an address in square brackets, with an optional scope, and a port. -/
def v6? (cs : List Char) : Option SocketAddress := do
  let (address, cs) ← takeChar? '[' cs >>= Ipv6.take?
  let (scope, cs) ← takeScope? cs
  let port ← takeChar? ']' cs >>= port?
  return v6 address scope port

/-- Reads an IPv4 address and a port. -/
def v4? (cs : List Char) : Option SocketAddress := do
  let (address, cs) ← Ipv4.take? cs
  let port ← port? cs
  return v4 address port

/-- Reads a text that is a socket address and nothing else. -/
def parse? (s : String) : Option SocketAddress := (v4? s.toList).or (v6? s.toList)

end SocketAddress

end Wayfinding
