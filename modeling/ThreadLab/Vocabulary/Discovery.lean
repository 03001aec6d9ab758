import ThreadLab.Vocabulary.Basic

namespace ThreadLab

inductive DiscoveryEvent where
  | startDiscoveryFailed
  | stopDiscoveryFailed
  | discoveryStarted
  | discoveryStopped
  | serviceFound
  | serviceLost
deriving DecidableEq

def DiscoveryEvent.word : DiscoveryEvent → Text
  | .startDiscoveryFailed => "onStartDiscoveryFailed"
  | .stopDiscoveryFailed => "onStopDiscoveryFailed"
  | .discoveryStarted => "onDiscoveryStarted"
  | .discoveryStopped => "onDiscoveryStopped"
  | .serviceFound => "onServiceFound"
  | .serviceLost => "onServiceLost"

instance : Vocabulary DiscoveryEvent where
  title := "NsdDiscoveryEventName"
  group := none
  members := [.startDiscoveryFailed, .stopDiscoveryFailed, .discoveryStarted, .discoveryStopped,
    .serviceFound, .serviceLost]
  name
    | .startDiscoveryFailed => "ON_START_DISCOVERY_FAILED"
    | .stopDiscoveryFailed => "ON_STOP_DISCOVERY_FAILED"
    | .discoveryStarted => "ON_DISCOVERY_STARTED"
    | .discoveryStopped => "ON_DISCOVERY_STOPPED"
    | .serviceFound => "ON_SERVICE_FOUND"
    | .serviceLost => "ON_SERVICE_LOST"
  code member := .word member.word

inductive ServiceInfoEvent where
  | registrationFailed
  | serviceUpdated
  | serviceLost
  | unregistered
deriving DecidableEq

def ServiceInfoEvent.word : ServiceInfoEvent → Text
  | .registrationFailed => "onServiceInfoCallbackRegistrationFailed"
  | .serviceUpdated => "onServiceUpdated"
  | .serviceLost => "onServiceLost"
  | .unregistered => "onServiceInfoCallbackUnregistered"

instance : Vocabulary ServiceInfoEvent where
  title := "NsdServiceInfoCallbackEventName"
  group := none
  members := [.registrationFailed, .serviceUpdated, .serviceLost, .unregistered]
  name
    | .registrationFailed => "ON_REGISTRATION_FAILED"
    | .serviceUpdated => "ON_SERVICE_UPDATED"
    | .serviceLost => "ON_SERVICE_LOST"
    | .unregistered => "ON_UNREGISTERED"
  code member := .word member.word

inductive DiscoveryKey where
  | serviceInfo
deriving DecidableEq

def DiscoveryKey.word : DiscoveryKey → Text
  | .serviceInfo => "serviceInfo"

instance : Vocabulary DiscoveryKey where
  title := "NsdEventDataKey"
  group := none
  members := [.serviceInfo]
  name
    | .serviceInfo => "SERVICE_INFO"
  code member := .word member.word

end ThreadLab
