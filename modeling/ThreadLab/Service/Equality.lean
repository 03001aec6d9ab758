import ThreadLab.Json.Equality
import ThreadLab.Json.Hash
import ThreadLab.Service.Info

namespace ThreadLab

def Ip.Address.slot : Ip.Address → Slot × Option Ip.Scope
  | .v4 address => (.text address.text, none)
  | .v6 address => (.ofNumber (.ofInt address.value), address.scope)

namespace Service

/-- The same keys with the same bytes, in any order. -/
def sameAttributes (left right : List (Text × Bytes)) : Bool :=
  left.length == right.length && left.all fun (key, value) => right.lookup key == some value

namespace Info

def same (left right : Info) : Bool :=
  left.name.same right.name && left.kind.same right.kind && left.hosts == right.hosts &&
    left.port.same right.port && left.network.same right.network &&
    sameAttributes left.attributes right.attributes

structure Key where
  fields : List Slot
  hosts : List (Slot × Option Ip.Scope)
deriving DecidableEq

def slotOf (value : Json) : Except Fault Slot :=
  match value.slot? with
  | some slot => .ok slot
  | none => .error .wrongKind

/-- Where a set looks for a service; sets hold no service with a list or an object for a field. -/
def key (info : Info) : Except Fault Key := do
  let fields ← [info.name, info.kind, info.port, info.network].mapM slotOf
  return ⟨fields, info.hosts.map Ip.Address.slot⟩

def sameHash (left right : Info) : Except Fault Bool := do
  let left ← left.key
  let right ← right.key
  return decide (left = right)

def setSize (left right : Info) : Except Fault Nat := do
  let sameHash ← left.sameHash right
  return if sameHash && left.same right then 1 else 2

end Info

end Service

end ThreadLab
