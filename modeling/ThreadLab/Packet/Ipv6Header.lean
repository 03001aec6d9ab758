import ThreadLab.Ip.V6.Basic
import ThreadLab.Packet.Header

namespace ThreadLab.Packet

structure Ipv6Header where
  versionClassFlow : Int
  payloadLength : Int
  nextHeader : Int
  hopLimit : Int
  source : Ip.V6
  destination : Ip.V6
deriving DecidableEq

namespace Ipv6Header

def ofBytes (bytes : Bytes) : Ipv6Header where
  versionClassFlow := (bytes.slice 0 4).number
  payloadLength := (bytes.slice 4 2).number
  nextHeader := (bytes.slice 6 1).number
  hopLimit := (bytes.slice 7 1).number
  source := Ip.V6.ofPacked (bytes.slice 8 16)
  destination := Ip.V6.ofPacked (bytes.slice 24 16)

def toBytes? (header : Ipv6Header) : Option Bytes := do
  let versionClassFlow ← field? 4 header.versionClassFlow
  let payloadLength ← field? 2 header.payloadLength
  let nextHeader ← field? 1 header.nextHeader
  let hopLimit ← field? 1 header.hopLimit
  return versionClassFlow ++ payloadLength ++ nextHeader ++ hopLimit ++ header.source.packed ++
    header.destination.packed

instance : Header Ipv6Header where
  title := "IPv6 header"
  size := 40
  ofBytes := ofBytes
  toBytes? := toBytes?

end Ipv6Header

end ThreadLab.Packet
