import ThreadLab.Packet.Header

namespace ThreadLab.Packet

structure RouterHeader where
  hopLimit : Int
  flags : Int
  routerLifetime : Int
  reachableTime : Int
  retransTimer : Int
deriving DecidableEq

namespace RouterHeader

def ofBytes (bytes : Bytes) : RouterHeader where
  hopLimit := (bytes.slice 0 1).number
  flags := (bytes.slice 1 1).number
  routerLifetime := (bytes.slice 2 2).number
  reachableTime := (bytes.slice 4 4).number
  retransTimer := (bytes.slice 8 4).number

def toBytes? (header : RouterHeader) : Option Bytes := do
  let hopLimit ← field? 1 header.hopLimit
  let flags ← field? 1 header.flags
  let routerLifetime ← field? 2 header.routerLifetime
  let reachableTime ← field? 4 header.reachableTime
  let retransTimer ← field? 4 header.retransTimer
  return hopLimit ++ flags ++ routerLifetime ++ reachableTime ++ retransTimer

instance : Header RouterHeader where
  title := "RA header"
  size := 12
  ofBytes := ofBytes
  toBytes? := toBytes?

end RouterHeader

end ThreadLab.Packet
