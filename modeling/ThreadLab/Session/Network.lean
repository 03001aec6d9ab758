import ThreadLab.NetworkRequest
import ThreadLab.Session.Act
import ThreadLab.Text.Integer

namespace ThreadLab.Session

/-- The system level that a value stands for; a number loses its fraction. -/
def readLevel : Json → Except Fault Int
  | .text text => (Text.Integer.read text).mapError .integer
  | .integer level => .ok level
  | .bool value => .ok (if value then 1 else 0)
  | .real level => do
    let value ← level.number.bounded.mapError .unbounded
    return Number.truncate value
  | _ => .error .wrongKind

def levelKey : Text := "build_version_sdk"

def systemLevel (device : Nat) : Act Int := do
  let device ← Act.device device
  match device.build.lookup levelKey with
  | some value => Act.ofExcept (readLevel value)
  | none => throw (.unknownKey levelKey)

/-- Older systems have to be asked for a local network. -/
def threadRequest (level : Int) : NetworkRequest where
  transport := .thread
  capabilities := if level ≤ Settings.lastLevelWithLocalNetwork then [.localNetwork] else []

def reportsAvailable (data : Json) : Except Fault Bool := do
  let news ← Event.field data ConnectivityKey.callbackName.word
  return news.same (.text ConnectivityNews.available.word)

def waitForNetwork (device : Nat) (limit : Duration) : Act Json := do
  let level ← systemLevel device
  let label := (← Act.device device).label
  let data ← Act.withCallback device "connectivityRegisterNetworkCallback"
    [(threadRequest level).json] "connectivityUnregisterNetworkCallback" fun handler =>
      (Act.awaitMatch handler ConnectivityEvent.networkCallback.word reportsAvailable
        limit).onTimeout fun _ => .expired (.network label limit)
  Act.ofExcept (Event.field data ConnectivityKey.network.word)

end ThreadLab.Session
