import ThreadLab.Vocabulary.Connectivity
import ThreadLab.Vocabulary.DeviceRole
import ThreadLab.Vocabulary.Discovery
import ThreadLab.Vocabulary.Icmpv6Type
import ThreadLab.Vocabulary.NdOptionType

namespace ThreadLab.Vocabulary

structure Member where
  name : Text
  code : Code

structure Entry where
  title : Text
  members : List Member
  ofJson : Json → Except UnknownValue Member
  ofName? : Text → Option Member

def member {α : Type} [Vocabulary α] (value : α) : Member :=
  ⟨name value, code value⟩

def entry (α : Type) [Vocabulary α] : Entry where
  title := title α
  members := (members : List α).map member
  ofJson value := (member (α := α)) <$> ofJson value
  ofName? word := (ofName? word : Option α).map member

def index : List Entry :=
  [entry DeviceRole, entry Icmpv6Type, entry NdOptionType, entry StateEvent, entry StateKey,
    entry DiscoveryEvent, entry ServiceInfoEvent, entry DiscoveryKey, entry ConnectivityEvent,
    entry ConnectivityKey, entry ConnectivityNews, entry Transport, entry Capability]

end ThreadLab.Vocabulary
