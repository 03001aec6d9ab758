import ThreadLab.Ip.Network
import ThreadLab.Packet.Header
import ThreadLab.Vocabulary.NdOptionType

namespace ThreadLab.Packet

structure PrefixInformation where
  prefixLength : Int
  flags : Int
  validLifetime : Int
  preferredLifetime : Int
  base : Ip.V6
  kind : Int := NdOptionType.prefixInformation.number
  length : Int := 4
  reserved : Int := 0
deriving DecidableEq

namespace PrefixInformation

def ofBytes (bytes : Bytes) : PrefixInformation where
  kind := (bytes.slice 0 1).number
  length := (bytes.slice 1 1).number
  prefixLength := (bytes.slice 2 1).number
  flags := (bytes.slice 3 1).number
  validLifetime := (bytes.slice 4 4).number
  preferredLifetime := (bytes.slice 8 4).number
  reserved := (bytes.slice 12 4).number
  base := Ip.V6.ofPacked (bytes.slice 16 16)

def toBytes? (option : PrefixInformation) : Option Bytes := do
  let kind ← field? 1 option.kind
  let length ← field? 1 option.length
  let prefixLength ← field? 1 option.prefixLength
  let flags ← field? 1 option.flags
  let validLifetime ← field? 4 option.validLifetime
  let preferredLifetime ← field? 4 option.preferredLifetime
  let reserved ← field? 4 option.reserved
  return kind ++ length ++ prefixLength ++ flags ++ validLifetime ++ preferredLifetime ++
    reserved ++ option.base.packed

instance : Header PrefixInformation where
  title := "Prefix Information Option"
  size := 32
  ofBytes := ofBytes
  toBytes? := toBytes?

def hasFlag (option : PrefixInformation) (weight : Int) : Bool :=
  option.flags / weight % 2 == 1

def onLink (option : PrefixInformation) : Bool := option.hasFlag 0x80

def autonomous (option : PrefixInformation) : Bool := option.hasFlag 0x40

def routerAddress (option : PrefixInformation) : Bool := option.hasFlag 0x20

def dhcpv6PdPreferred (option : PrefixInformation) : Bool := option.hasFlag 0x10

/-- The advertised network: the base address without the bits after the prefix length. -/
def network (option : PrefixInformation) : Except Ip.PrefixLengthFault Ip.Network :=
  Ip.Network.around option.base option.prefixLength

end PrefixInformation

end ThreadLab.Packet
