import Mathlib

/-!
# Addresses

IP addresses and socket addresses as the standard library has them.
-/

namespace MavlinkRouter

/-- An address without a port. -/
inductive IpAddr where
  | v4 (ip : BitVec 32)
  | v6 (ip : BitVec 128)
  deriving DecidableEq, Repr

namespace IpAddr

def isIpv6 : IpAddr → Bool
  | .v4 _ => false
  | .v6 _ => true

/-- The IPv4 address that an address of the form `::ffff:a.b.c.d` stands for. -/
def toIpv4Mapped (ip : BitVec 128) : Option (BitVec 32) :=
  if ip.extractLsb' 32 96 = 0xFFFF#96 then some (ip.extractLsb' 0 32) else none

/-- An IPv4-mapped address counts as the IPv4 address. -/
def canonicalIp : IpAddr → IpAddr
  | .v4 ip => .v4 ip
  | .v6 ip =>
    match toIpv4Mapped ip with
    | some mapped => .v4 mapped
    | none => .v6 ip

end IpAddr

/-- An address with a port. -/
inductive SocketAddr where
  | v4 (ip : BitVec 32) (port : UInt16)
  | v6 (ip : BitVec 128) (port : UInt16) (flowinfo scopeId : UInt32)
  deriving DecidableEq, Repr

namespace SocketAddr

def new (port : UInt16) : IpAddr → SocketAddr
  | .v4 ip => .v4 ip port
  | .v6 ip => .v6 ip port 0 0

def ip : SocketAddr → IpAddr
  | .v4 ip _ => .v4 ip
  | .v6 ip _ _ _ => .v6 ip

end SocketAddr

/-- How the standard library prints addresses. -/
structure AddrFormat where
  ipv4 : BitVec 32 → String
  ipv6 : BitVec 128 → String

end MavlinkRouter
