import ThreadLab.Fault
import ThreadLab.Vocabulary.Connectivity

namespace ThreadLab

structure NetworkRequest where
  transport : Transport
  capabilities : List Capability := []
deriving DecidableEq

namespace NetworkRequest

def capabilityFields (capabilities : List Capability) : List (Text × Json) :=
  if capabilities.isEmpty then []
  else [("capabilities", .array (capabilities.map (.integer ·.number)))]

def json (request : NetworkRequest) : Json :=
  .object (("transport_type", .integer request.transport.number) ::
    capabilityFields request.capabilities)

def ofCodes (transport capabilities : Json) : Except Fault NetworkRequest := do
  let transport ← (Vocabulary.ofJson transport).mapError .unknownValue
  match capabilities.elements? with
  | none => throw .wrongKind
  | some codes =>
    let capabilities ← codes.mapM fun code => (Vocabulary.ofJson code).mapError .unknownValue
    return { transport, capabilities }

end NetworkRequest

end ThreadLab
