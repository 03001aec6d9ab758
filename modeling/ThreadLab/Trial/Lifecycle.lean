import ThreadLab.Session.Daemon
import ThreadLab.Session.Interface
import ThreadLab.Session.Network
import ThreadLab.Session.Preparation
import ThreadLab.Session.Role

namespace ThreadLab.Trial

def activeRoles : List Int :=
  [DeviceRole.child.number, DeviceRole.router.number, DeviceRole.leader.number]

namespace Lifecycle

structure Setup where
  device : Nat
  interface : Text := Settings.threadInterface

def interfaceKey : Text := "thread_interface_name"

def prepare (devices : List Nat) (parameters : List (Text × Json)) : Act (Nat × Json) := do
  devices.forM Session.prepare
  match devices.head? with
  | none => throw .noSuchPlace
  | some device =>
    return (device, (parameters.lookup interfaceKey).getD (.text Settings.threadInterface))

variable (setup : Setup)

def leave : Act Unit := do
  let _ ← Act.request setup.device "threadLeave" []

def leaveAndWait : Act Unit := do
  leave setup
  let _ ← Session.waitForRole setup.device [DeviceRole.stopped.number] Settings.leaveTimeout

def join : Act DeviceRole := do
  let _ ← Act.request setup.device "threadJoinRandomNetwork" []
  Session.waitForRole setup.device activeRoles Settings.joinTimeout

def joinsAsLeader : Act Unit := do
  let role ← join setup
  Act.check (role = .leader)
  let prefixes ← Session.networkPrefixes setup.device
  Act.log ("Network data " ++ prefixes)

def offersNetwork : Act Unit := do
  let _ ← join setup
  let network ← Session.waitForNetwork setup.device Settings.joinTimeout
  Act.check network.isTruthy

def expectedGroups : List Ip.V6 :=
  [Ip.V6.ofGroups [0xff02, 0, 0, 0, 0, 0, 0, 1], Ip.V6.ofGroups [0xff03, 0, 0, 0, 0, 0, 0, 0xfc]]

def groupLimit : Duration := ⟨Settings.callbackTimeout.micros * 5⟩

def joinsGroups : Act Unit := do
  let _ ← join setup
  expectedGroups.forM fun group =>
    Session.waitForGroup setup.device setup.interface (.known group) groupLimit

/-- Whether an address is in use beyond its link. -/
def isMeshLocal (link : LinkAddress) : Bool :=
  !link.address.isLinkLocal && !link.isDeprecated

def hasMeshLocalAddress : Act Unit := do
  let _ ← join setup
  let links ← Session.linkAddresses setup.device setup.interface
  Act.check (links.any (·.address.isLinkLocal))
  Act.check (links.any isMeshLocal)

def joinsAndLeaves : Act Unit := do
  let _ ← join setup
  leaveAndWait setup

end Lifecycle

end ThreadLab.Trial
