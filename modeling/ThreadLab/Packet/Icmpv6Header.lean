import ThreadLab.Packet.Header

namespace ThreadLab.Packet

structure Icmpv6Header where
  kind : Int
  code : Int
  checksum : Int
deriving DecidableEq

namespace Icmpv6Header

def ofBytes (bytes : Bytes) : Icmpv6Header where
  kind := (bytes.slice 0 1).number
  code := (bytes.slice 1 1).number
  checksum := (bytes.slice 2 2).number

def toBytes? (header : Icmpv6Header) : Option Bytes := do
  let kind ← field? 1 header.kind
  let code ← field? 1 header.code
  let checksum ← field? 2 header.checksum
  return kind ++ code ++ checksum

instance : Header Icmpv6Header where
  title := "ICMPv6 header"
  size := 4
  ofBytes := ofBytes
  toBytes? := toBytes?

end Icmpv6Header

end ThreadLab.Packet
