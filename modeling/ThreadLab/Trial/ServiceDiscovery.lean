import ThreadLab.Session.Discovery
import ThreadLab.Trial.Lifecycle

namespace ThreadLab.Trial.ServiceDiscovery

structure Setup where
  advertiser : Nat
  browser : Nat

def serviceType : Json := .text "_threadtest._udp"

def servicePort : Int := 12345

def service (name : Json) : Service.Info where
  name
  kind := serviceType
  port := .integer servicePort
  attributes := [("key", Text.Utf8.encodeChars "value".toList)]

variable (setup : Setup)

def formNetwork : Act Unit := do
  let dataset ← Act.request setup.advertiser "threadJoinRandomNetwork" []
  let _ ← Session.waitForRole setup.advertiser [DeviceRole.leader.number] Settings.joinTimeout
  let _ ← Act.request setup.browser "threadJoin" [dataset]
  let _ ← Session.waitForRole setup.browser activeRoles Settings.rejoinTimeout

def prepare (devices : List Nat) : Act Unit := do
  devices.forM Session.prepare
  match devices with
  | advertiser :: browser :: _ =>
    Act.rename advertiser "Advertiser"
    Act.rename browser "Browser"
    formNetwork { advertiser, browser }
  | few => throw (.fewDevices few.length)

def leaveAll (devices : List Nat) : Act Unit :=
  devices.forM fun device => do
    let _ ← Act.request device "threadLeave" []

def advertise (name : Json) : Act Service.Info := do
  let info := service name
  let _ ← Act.request setup.advertiser "nsdRegisterService" [info.json]
  return info

def withdraw (info : Service.Info) : Act Unit := do
  let _ ← Act.request setup.advertiser "nsdUnregisterService" [info.name]

def findsService (name : Json) : Act Unit := do
  let info ← advertise setup name
  let resolved ← Act.andThen
    (do
      let found ← Session.discover setup.browser serviceType Settings.discoveryTimeout
      Act.check (found.name.equals info.name)
      Session.resolveUntil setup.browser found (fun update => .ok !update.hosts.isEmpty)
        Settings.discoveryTimeout)
    (withdraw setup info)
  Act.check (resolved.port.same (.integer servicePort))
  Act.check (Service.sameAttributes resolved.attributes info.attributes)

def losesService (name : Json) : Act Unit := do
  let info ← advertise setup name
  let discovery ← Session.startDiscovery setup.browser serviceType
  let lost ← Act.andThen
    (do
      withdraw setup info
      Session.waitForLost discovery Settings.discoveryTimeout)
    (Session.stopDiscovery setup.browser discovery)
  Act.check (lost.name.equals info.name)

end ThreadLab.Trial.ServiceDiscovery
