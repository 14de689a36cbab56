set_option autoImplicit false

/-! # Endpoints: where a datagram comes from or goes to -/

namespace Bacnet

/-- An address of a host. -/
inductive IpAddress where
  | v4 (a b c d : UInt8)
  | v6 (segments : Vector UInt16 8)
deriving DecidableEq, Repr

/-- The IPv4 address that a word holds, its first number in the highest octet. -/
def IpAddress.ofWord (word : UInt32) : IpAddress :=
  .v4 (word >>> 24).toUInt8 (word >>> 16).toUInt8 (word >>> 8).toUInt8 word.toUInt8

/-- A port of a host, with the number of the link for an address that only holds on one link. The
    flow label that an IPv6 address may come with is left out: no text of an address says it,
    nothing that is done with an address looks at it, and a datagram that goes back to where another
    one came from goes to the same host and port whatever it is. -/
structure Endpoint where
  ip : IpAddress
  port : UInt16
  scope : UInt32
deriving DecidableEq, Repr

/-- The same port of another host; it aims a broadcast at the port of the requester. -/
def Endpoint.withIp (e : Endpoint) (ip : IpAddress) : Endpoint := ⟨ip, e.port, 0⟩

end Bacnet
