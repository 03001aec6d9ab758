import ThreadLab.Proofs.Rows
import ThreadLab.Proofs.Session.Watch
import ThreadLab.Session.Discovery
import ThreadLab.Session.Network
import ThreadLab.Session.Role

namespace ThreadLab.Session

def builtLevel (device : Device) : Except Fault Int :=
  match device.build.lookup levelKey with
  | some value => readLevel value
  | none => .error (.unknownKey levelKey)

theorem systemLevel_eq (place : Nat) (lab : Lab) :
    systemLevel place lab = (builtLevel (lab.device place), lab) := by
  unfold systemLevel builtLevel
  rw [Act.bind_of_ok (Act.device_eq place lab)]
  cases (lab.device place).build.lookup levelKey <;> rfl

inductive Errand where
  | role (device : Nat) (roles : List Int) (limit : Duration)
  | discovery (device : Nat) (kind : Json) (limit : Duration)
  | resolution (device : Nat) (sought : Sought) (limit : Duration)
  | resolutionUntil (device : Nat) (sought : Sought) (criterion : Service.Info → Except Fault Bool)
    (limit : Duration)
  | network (device : Nat) (limit : Duration)

namespace Errand

abbrev Answer : Errand → Type
  | role .. => DeviceRole
  | discovery .. | resolution .. | resolutionUntil .. => Service.Info
  | network .. => Json

def act : (errand : Errand) → Act errand.Answer
  | role device roles limit => waitForRole device roles limit
  | discovery device kind limit => discover device kind limit
  | resolution device sought limit => resolveSought device sought (fun _ => .ok true) limit
  | resolutionUntil device sought criterion limit => resolveSought device sought criterion limit
  | network device limit => waitForNetwork device limit

def roleWatch (device : Nat) (roles : List Int) (limit : Duration) : Watch DeviceRole where
  device
  register := "threadRegisterStateCallback"
  arguments := fun _ => .ok []
  unregister := "threadUnregisterStateCallback"
  kind := .matching
  event := StateEvent.deviceRoleChanged.word
  accepts := reportsRole roles
  limit
  late := fun _ text => .expired (.role limit text)
  convert := readRole
  notes := fun role => ["Thread device role is " ++ Vocabulary.name role ++ "."]

def discoveryWatch (device : Nat) (kind : Json) (limit : Duration) : Watch Service.Info where
  device
  register := startDiscoveryRequest
  arguments := fun _ => .ok [kind]
  unregister := stopDiscoveryRequest
  kind := .first
  event := DiscoveryEvent.serviceFound.word
  accepts := fun _ => .ok true
  limit
  late := fun label _ => .expired (.serviceFound label kind limit)
  convert := readService
  notes := fun info => ["Discovered service " ++ info.name.plain ++ "."]

def resolutionWatch (device : Nat) (sought : Sought)
    (criterion : Service.Info → Except Fault Bool) (limit : Duration) : Watch Service.Info where
  device
  register := "nsdRegisterServiceInfoCallback"
  arguments := fun _ => sought.request.map ([·])
  unregister := "nsdUnregisterServiceInfoCallback"
  kind := .matching
  event := ServiceInfoEvent.serviceUpdated.word
  accepts := fun data => readService data >>= criterion
  limit
  late := fun label _ => .expired (.serviceResolved label sought.name sought.kind limit)
  convert := readService

def networkArguments (device : Device) : Except Fault (List Json) := do
  let level ← builtLevel device
  return [(threadRequest level).json]

def networkWatch (device : Nat) (limit : Duration) : Watch Json where
  device
  register := "connectivityRegisterNetworkCallback"
  arguments := networkArguments
  unregister := "connectivityUnregisterNetworkCallback"
  kind := .matching
  event := ConnectivityEvent.networkCallback.word
  accepts := reportsAvailable
  limit
  late := fun label _ => .expired (.network label limit)
  convert := fun data => Event.field data ConnectivityKey.network.word

def watch : (errand : Errand) → Watch errand.Answer
  | role device roles limit => roleWatch device roles limit
  | discovery device kind limit => discoveryWatch device kind limit
  | resolution device sought limit => resolutionWatch device sought (fun _ => .ok true) limit
  | resolutionUntil device sought criterion limit => resolutionWatch device sought criterion limit
  | network device limit => networkWatch device limit

theorem networkArguments_of_ok {device : Device} {level : Int}
    (built : builtLevel device = .ok level) :
    networkArguments device = .ok [(threadRequest level).json] := by
  unfold networkArguments
  rw [built]
  rfl

theorem networkArguments_of_error {device : Device} {fault : Fault}
    (built : builtLevel device = .error fault) : networkArguments device = .error fault := by
  unfold networkArguments
  rw [built]
  rfl

theorem waitForNetwork_eq (device : Nat) (limit : Duration) :
    waitForNetwork device limit = (networkWatch device limit).act := by
  have silent : (networkWatch device limit).notes = fun _ => [] := rfl
  funext lab
  have level := systemLevel_eq device lab
  rw [Watch.act_silent silent, Act.bind_of_ok (Act.device_eq (networkWatch device limit).device lab)]
  show waitForNetwork device limit lab =
    (Act.ofExcept (networkArguments (lab.device device)) >>= _) lab
  unfold waitForNetwork
  cases built : builtLevel (lab.device device) with
  | error fault =>
    rw [built] at level
    rw [networkArguments_of_error built, Act.bind_of_error level,
      Act.bind_of_error (Act.ofExcept_eq (.error fault) lab)]
  | ok number =>
    rw [built] at level
    rw [networkArguments_of_ok built, Act.bind_of_ok level,
      Act.bind_of_ok (Act.device_eq device lab), Act.bind_of_ok (Act.ofExcept_eq (.ok _) lab)]
    rfl

theorem resolveSought_eq (device : Nat) (sought : Sought)
    (criterion : Service.Info → Except Fault Bool) (limit : Duration) :
    resolveSought device sought criterion limit =
      (resolutionWatch device sought criterion limit).act := by
  have silent : (resolutionWatch device sought criterion limit).notes = fun _ => [] := rfl
  rw [Watch.act_silent silent]
  unfold resolveSought resolutionWatch
  cases sought.request with
  | error fault => rfl
  | ok request => rfl

theorem act_eq (errand : Errand) : errand.act = errand.watch.act := by
  cases errand with
  | role device roles limit => rfl
  | discovery device kind limit => rfl
  | resolution device sought limit => exact resolveSought_eq device sought _ limit
  | resolutionUntil device sought criterion limit =>
    exact resolveSought_eq device sought criterion limit
  | network device limit => exact waitForNetwork_eq device limit

/-- The request of an errand cannot be made for a device: the service that is sought cannot be
described, or the system of the device is not known. -/
def Unasked (device : Device) (fault : Fault) : Errand → Prop
  | role .. | discovery .. => False
  | resolution _ sought _ | resolutionUntil _ sought _ _ => sought.request = .error fault
  | network .. => builtLevel device = .error fault

theorem arguments_eq_error_iff {errand : Errand} {device : Device} {fault : Fault} :
    errand.watch.arguments device = .error fault ↔ errand.Unasked device fault := by
  cases errand with
  | role | discovery => exact iff_of_false nofun id
  | resolution | resolutionUntil => exact map_eq_error_iff
  | network place limit =>
    constructor
    · intro unknown
      rcases bind_eq_error.mp unknown with unbuilt | ⟨level, -, made⟩
      · exact unbuilt
      · cases made
    · exact networkArguments_of_error

end Errand

end ThreadLab.Session
