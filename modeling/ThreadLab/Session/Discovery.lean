import ThreadLab.Service.Criterion
import ThreadLab.Session.Act
import ThreadLab.Vocabulary.Discovery

namespace ThreadLab.Session

def startDiscoveryRequest : Text := "nsdDiscoverServices"

def stopDiscoveryRequest : Text := "nsdStopServiceDiscovery"

def readService (data : Json) : Except Fault Service.Info := do
  let value ← Event.field data DiscoveryKey.serviceInfo.word
  Service.Info.ofJson value

def discover (device : Nat) (kind : Json) (limit : Duration) : Act Service.Info := do
  let label := (← Act.device device).label
  let data ← Act.withCallback device startDiscoveryRequest [kind]
    stopDiscoveryRequest fun handler =>
      (Act.awaitFirst handler DiscoveryEvent.serviceFound.word limit).onTimeout
        fun _ => .expired (.serviceFound label kind limit)
  let info ← Act.ofExcept (readService data)
  Act.log ("Discovered service " ++ info.name.plain ++ ".")
  return info

def startDiscovery (device : Nat) (kind : Json) : Act Nat :=
  Act.register device startDiscoveryRequest [kind]

def stopDiscovery (device handler : Nat) : Act Unit := do
  let handler ← Act.handler handler
  let _ ← Act.request device stopDiscoveryRequest [.text handler.callback]

def waitForLost (handler : Nat) (limit : Duration) : Act Service.Info := do
  let data ← (Act.awaitFirst handler DiscoveryEvent.serviceLost.word limit).onTimeout
    fun _ => .expired (.serviceLost limit)
  Act.ofExcept (readService data)

/-- A service that is to be resolved. The request that describes it can fail to be made. -/
structure Sought where
  name : Json
  kind : Json
  request : Except Fault Json

def Sought.ofInfo (info : Service.Info) : Sought where
  name := info.name
  kind := info.kind
  request := .ok info.json

/-- The first update of a service that meets a criterion. -/
def resolveSought (device : Nat) (sought : Sought) (criterion : Service.Info → Except Fault Bool)
    (limit : Duration) : Act Service.Info := do
  let label := (← Act.device device).label
  let request ← Act.ofExcept sought.request
  let data ← Act.withCallback device "nsdRegisterServiceInfoCallback" [request]
    "nsdUnregisterServiceInfoCallback" fun handler =>
      (Act.awaitMatch handler ServiceInfoEvent.serviceUpdated.word
        (fun data => readService data >>= criterion) limit).onTimeout
        fun _ => .expired (.serviceResolved label sought.name sought.kind limit)
  Act.ofExcept (readService data)

def resolveUntil (device : Nat) (info : Service.Info) (criterion : Service.Info → Except Fault Bool)
    (limit : Duration) : Act Service.Info :=
  resolveSought device (.ofInfo info) criterion limit

def resolve (device : Nat) (info : Service.Info) (limit : Duration) : Act Service.Info :=
  resolveUntil device info (fun _ => .ok true) limit

end ThreadLab.Session
