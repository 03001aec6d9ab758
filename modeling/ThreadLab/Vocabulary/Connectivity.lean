import ThreadLab.Vocabulary.Basic

namespace ThreadLab

inductive ConnectivityEvent where
  | networkCallback
deriving DecidableEq

def ConnectivityEvent.word : ConnectivityEvent → Text
  | .networkCallback => "NetworkCallback"

instance : Vocabulary ConnectivityEvent where
  title := "NetworkCbEventName"
  group := none
  members := [.networkCallback]
  name
    | .networkCallback => "NETWORK_CALLBACK"
  code member := .word member.word

inductive ConnectivityKey where
  | network
  | callbackName
deriving DecidableEq

def ConnectivityKey.word : ConnectivityKey → Text
  | .network => "network"
  | .callbackName => "callbackName"

instance : Vocabulary ConnectivityKey where
  title := "NetworkCbEventKey"
  group := none
  members := [.network, .callbackName]
  name
    | .network => "NETWORK"
    | .callbackName => "CALLBACK_NAME"
  code member := .word member.word

inductive ConnectivityNews where
  | available
  | unavailable
  | lost
  | capabilitiesChanged
  | propertiesChanged
deriving DecidableEq

def ConnectivityNews.word : ConnectivityNews → Text
  | .available => "onAvailable"
  | .unavailable => "onUnavailable"
  | .lost => "onLost"
  | .capabilitiesChanged => "onCapabilitiesChanged"
  | .propertiesChanged => "onLinkPropertiesChanged"

instance : Vocabulary ConnectivityNews where
  title := "NetworkCbName"
  group := none
  members := [.available, .unavailable, .lost, .capabilitiesChanged, .propertiesChanged]
  name
    | .available => "ON_AVAILABLE"
    | .unavailable => "ON_UNAVAILABLE"
    | .lost => "ON_LOST"
    | .capabilitiesChanged => "ON_CAPABILITIES_CHANGED"
    | .propertiesChanged => "ON_PROPERTIES_CHANGED"
  code member := .word member.word

inductive Transport where
  | cellular
  | wifi
  | bluetooth
  | ethernet
  | vpn
  | wifiAware
  | lowpan
  | test
  | usb
  | thread
deriving DecidableEq

def Transport.number : Transport → Int
  | .cellular => 0
  | .wifi => 1
  | .bluetooth => 2
  | .ethernet => 3
  | .vpn => 4
  | .wifiAware => 5
  | .lowpan => 6
  | .test => 7
  | .usb => 8
  | .thread => 9

instance : Vocabulary Transport where
  title := "Transport"
  group := some "NetworkCapabilities"
  members := [.cellular, .wifi, .bluetooth, .ethernet, .vpn, .wifiAware, .lowpan, .test, .usb,
    .thread]
  name
    | .cellular => "TRANSPORT_CELLULAR"
    | .wifi => "TRANSPORT_WIFI"
    | .bluetooth => "TRANSPORT_BLUETOOTH"
    | .ethernet => "TRANSPORT_ETHERNET"
    | .vpn => "TRANSPORT_VPN"
    | .wifiAware => "TRANSPORT_WIFI_AWARE"
    | .lowpan => "TRANSPORT_LOWPAN"
    | .test => "TRANSPORT_TEST"
    | .usb => "TRANSPORT_USB"
    | .thread => "TRANSPORT_THREAD"
  code member := .number member.number

inductive Capability where
  | internet
  | notRestricted
  | trusted
  | notVpn
  | localNetwork
deriving DecidableEq

def Capability.number : Capability → Int
  | .internet => 12
  | .notRestricted => 13
  | .trusted => 14
  | .notVpn => 15
  | .localNetwork => 36

instance : Vocabulary Capability where
  title := "NetCapability"
  group := some "NetworkCapabilities"
  members := [.internet, .notRestricted, .trusted, .notVpn, .localNetwork]
  name
    | .internet => "NET_CAPABILITY_INTERNET"
    | .notRestricted => "NET_CAPABILITY_NOT_RESTRICTED"
    | .trusted => "NET_CAPABILITY_TRUSTED"
    | .notVpn => "NET_CAPABILITY_NOT_VPN"
    | .localNetwork => "NET_CAPABILITY_LOCAL_NETWORK"
  code member := .number member.number

end ThreadLab
