import ThreadLab.Session.Act
import ThreadLab.Vocabulary.DeviceRole

namespace ThreadLab.Session

def reportsRole (roles : List Int) (data : Json) : Except Fault Bool := do
  let value ← Event.field data StateKey.deviceRole.word
  return roles.any fun role => value.same (.integer role)

def readRole (data : Json) : Except Fault DeviceRole := do
  let value ← Event.field data StateKey.deviceRole.word
  (Vocabulary.ofJson value).mapError .unknownValue

def waitForRole (device : Nat) (roles : List Int) (limit : Duration) : Act DeviceRole := do
  let data ← Act.withCallback device "threadRegisterStateCallback" []
    "threadUnregisterStateCallback" fun handler =>
      (Act.awaitMatch handler StateEvent.deviceRoleChanged.word (reportsRole roles) limit).onTimeout
        fun text => .expired (.role limit text)
  let role ← Act.ofExcept (readRole data)
  Act.log ("Thread device role is " ++ Vocabulary.name role ++ ".")
  return role

end ThreadLab.Session
