import ThreadLab.Fault
import ThreadLab.Ip.Reference
import ThreadLab.Json.Equality
import ThreadLab.Packet.RouterAdvertisement

namespace ThreadLab.Packet

/-- Whether a packet is an ICMPv6 message of the given type; what is no number is no type. -/
def isIcmpv6 (packet : Option Bytes) (kind : Json) : Bool :=
  match packet with
  | none => false
  | some bytes =>
    match (Header.parse bytes 0 : Except Truncated Ipv6Header),
      (Header.parse bytes icmpv6Offset : Except Truncated Icmpv6Header) with
    | .ok header, .ok message =>
      header.nextHeader == icmpv6Protocol && (Json.integer message.kind).same kind
    | _, _ => false

/-- Whether an address of the header is the one that is meant, which is read only where there is
a header. -/
def headerAddressIs (select : Ipv6Header → Ip.V6) (packet : Option Bytes)
    (meant : Ip.Reference) : Except Ip.V6.Fault Bool :=
  match packet with
  | none => .ok false
  | some bytes =>
    match Header.parse bytes 0 with
    | .error _ => .ok false
    | .ok header => do
      let address ← meant.address
      return select header == address

def isFrom (packet : Option Bytes) (source : Ip.Reference) : Except Ip.V6.Fault Bool :=
  headerAddressIs Ipv6Header.source packet source

def isTo (packet : Option Bytes) (destination : Ip.Reference) : Except Ip.V6.Fault Bool :=
  headerAddressIs Ipv6Header.destination packet destination

inductive Filter where
  | always
  | never
  | startsWith (bytes : Bytes)
  | endsWith (bytes : Bytes)
  | atLeast (size : Json)
  | icmpv6 (kind : Json)
  | source (address : Ip.Reference)
  | destination (address : Ip.Reference)
  | advertisesPrefix

def Filter.accepts (packet : Bytes) : Filter → Except Fault Bool
  | always => .ok true
  | never => .ok false
  | startsWith bytes => .ok (bytes.isPrefixOf packet)
  | endsWith bytes => .ok (bytes.isSuffixOf packet)
  | atLeast size =>
    match size.number? with
    | some number => .ok (number.isAtMost packet.length)
    | none => .error .wrongKind
  | icmpv6 kind => .ok (isIcmpv6 (some packet) kind)
  | source address => (isFrom (some packet) address).mapError .address
  | destination address => (isTo (some packet) address).mapError .address
  | advertisesPrefix => .ok !(advertisedPrefixes (some packet)).isEmpty

end ThreadLab.Packet
