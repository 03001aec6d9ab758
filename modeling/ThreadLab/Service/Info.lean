import ThreadLab.Fault
import ThreadLab.Ip.Address

namespace ThreadLab.Service

structure Info where
  name : Json
  kind : Json
  hosts : List Ip.Address := []
  port : Json := .integer 0
  attributes : List (Text × Bytes) := []
  network : Json := .null

namespace Info

def readAttribute : Json → Except Fault Bytes
  | .null => .ok []
  | .text text => (Base64.decode text).mapError .base64
  | _ => .error .wrongKind

def readAttributeFields : List (Text × Json) → Except Fault (List (Text × Bytes))
  | [] => .ok []
  | (key, value) :: fields => do
    let bytes ← readAttribute value
    let rest ← readAttributeFields fields
    return (key, bytes) :: rest

def readAttributes (value : Json) : Except Fault (List (Text × Bytes)) :=
  if value.isTruthy then
    match value with
    | .object fields => readAttributeFields fields
    | _ => .error .noObject
  else .ok []

def readHost (value : Json) : Except Fault Ip.Address :=
  match Ip.Address.ofJson? value with
  | some address => .ok address
  | none => .error (.noAddress value)

def readHosts (value : Json) : Except Fault (List Ip.Address) :=
  if value.isTruthy then
    match value.elements? with
    | some items => items.mapM readHost
    | none => .error .wrongKind
  else .ok []

def required (fields : List (Text × Json)) (key : Text) : Except Fault Json :=
  match fields.lookup key with
  | some value => .ok value
  | none => .error (.unknownKey key)

def given (fields : List (Text × Json)) (key : Text) (otherwise : Json) : Json :=
  (fields.lookup key).getD otherwise

def ofFields (fields : List (Text × Json)) : Except Fault Info := do
  let attributes ← readAttributes (given fields "attributes" .null)
  let name ← required fields "serviceName"
  let kind ← required fields "serviceType"
  let hosts ← readHosts (given fields "hostAddresses" .null)
  return { name, kind, hosts, attributes, port := given fields "port" (.integer 0),
           network := given fields "network" .null }

def ofJson : Json → Except Fault Info
  | .object fields => ofFields fields
  | _ => .error .noObject

def attributesJson (attributes : List (Text × Bytes)) : Json :=
  .object (attributes.map fun (key, value) => (key, .text (Base64.encode value)))

def networkFields : Json → List (Text × Json)
  | .null => []
  | network => [("network", network)]

def json (info : Info) : Json :=
  .object (("serviceName", info.name) :: ("serviceType", info.kind) ::
    ("hostAddresses", .array (info.hosts.map (.text ·.text))) :: ("port", info.port) ::
    ("attributes", attributesJson info.attributes) :: networkFields info.network)

end Info

end ThreadLab.Service
