import ThreadLab.Vocabulary.Basic

namespace ThreadLab

inductive DeviceRole where
  | stopped
  | detached
  | child
  | router
  | leader
deriving DecidableEq

def DeviceRole.number : DeviceRole → Int
  | .stopped => 0
  | .detached => 1
  | .child => 2
  | .router => 3
  | .leader => 4

instance : Vocabulary DeviceRole where
  title := "DeviceRole"
  group := none
  members := [.stopped, .detached, .child, .router, .leader]
  name
    | .stopped => "STOPPED"
    | .detached => "DETACHED"
    | .child => "CHILD"
    | .router => "ROUTER"
    | .leader => "LEADER"
  code member := .number member.number

inductive StateEvent where
  | deviceRoleChanged
  | partitionIdChanged
deriving DecidableEq

def StateEvent.word : StateEvent → Text
  | .deviceRoleChanged => "onDeviceRoleChanged"
  | .partitionIdChanged => "onPartitionIdChanged"

instance : Vocabulary StateEvent where
  title := "ThreadStateCallbackEventName"
  group := none
  members := [.deviceRoleChanged, .partitionIdChanged]
  name
    | .deviceRoleChanged => "ON_DEVICE_ROLE_CHANGED"
    | .partitionIdChanged => "ON_PARTITION_ID_CHANGED"
  code member := .word member.word

inductive StateKey where
  | deviceRole
  | partitionId
deriving DecidableEq

def StateKey.word : StateKey → Text
  | .deviceRole => "deviceRole"
  | .partitionId => "partitionId"

instance : Vocabulary StateKey where
  title := "ThreadStateCallbackDataKey"
  group := none
  members := [.deviceRole, .partitionId]
  name
    | .deviceRole => "DEVICE_ROLE"
    | .partitionId => "PARTITION_ID"
  code member := .word member.word

end ThreadLab
