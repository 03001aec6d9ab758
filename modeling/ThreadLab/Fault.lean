import ThreadLab.Base64
import ThreadLab.Duration
import ThreadLab.Ip.Network
import ThreadLab.Ip.V6.Parser
import ThreadLab.Packet.Header
import ThreadLab.SystemFault
import ThreadLab.Text.Integer
import ThreadLab.Text.Utf8
import ThreadLab.Vocabulary.Basic

namespace ThreadLab

inductive SnippetFault where
  | request
  | protocol
  | serverDied
  | handler
  | timeout
deriving DecidableEq

inductive Expired where
  | condition (limit : Duration)
  | role (limit : Duration) (detail : Text)
  | serviceFound (device : Text) (kind : Json) (limit : Duration)
  | serviceLost (limit : Duration)
  | serviceResolved (device : Text) (name kind : Json) (limit : Duration)
  | network (device : Text) (limit : Duration)
  | readerStart (descriptor : Int) (limit : Duration)

def Expired.message : Expired → Text
  | condition limit => "The condition failed to become true in " ++ limit.text
  | role limit detail =>
    "The device didn't become an expected role in " ++ limit.text ++ ": " ++ detail
  | serviceFound device kind limit =>
    device ++ " found no " ++ kind.plain ++ " service in " ++ limit.text ++ "."
  | serviceLost limit => "No service was lost in " ++ limit.text ++ "."
  | serviceResolved device name kind limit =>
    device ++ " failed to resolve " ++ name.plain ++ "." ++ kind.plain ++ " in " ++ limit.text ++
      "."
  | network device limit => device ++ " did not get a Thread network in " ++ limit.text ++ "."
  | readerStart descriptor limit =>
    "Packet reader on fd " ++ toString descriptor ++ " did not start in " ++ limit.text ++ "."

inductive LongWait where
  | seconds
  | system
deriving DecidableEq

def LongWait.message : LongWait → Text
  | seconds => "integer division result too large for a float"
  | system => "timestamp out of range for platform time_t"

inductive Fault where
  | address (cause : Ip.V6.Fault)
  | noAddress (value : Json)
  | prefixLength (cause : Ip.PrefixLengthFault)
  | truncated (cause : Packet.Truncated)
  | fieldOverflow
  | base64 (cause : Base64.Fault)
  | unknownValue (cause : Vocabulary.UnknownValue)
  | unknownKey (key : Text)
  | wrongKind
  | noObject
  | noSuchPlace
  | integer (cause : Text.Integer.Fault)
  | noSlash
  | fewDevices (count : Nat)
  | noSection
  | noText (offset : Nat)
  | surrogates (cause : Text.Utf8.Surrogates)
  | unbounded (cause : Number.Unbounded)
  | manyDays (days : Int)
  | longWait {cause : LongWait}
  | expired (wait : Expired)
  | shell (text : Text)
  | snippet (kind : SnippetFault) (device text : Text)
  | system (cause : SystemFault)
  | readerStarted (descriptor : Int)
  | condition (text : Text)
  | checkFailed

/-- The text of a snippet fault under the label of its device. A text that begins with two colons
names a part of the device, and follows its label directly. -/
def labelled (label text : Text) : Text :=
  if List.isPrefixOf "::" text then label ++ text else label ++ " " ++ text

/-- The number of days is shown where it has at most 32 bits. -/
def Fault.message : Fault → Text
  | address cause => cause.message
  | noAddress value => value.shown ++ " does not appear to be an IPv4 or IPv6 address"
  | prefixLength cause => cause.message
  | truncated cause => cause.message
  | fieldOverflow => "a value does not fit its field"
  | base64 cause => cause.message
  | unknownValue cause => cause.message
  | unknownKey key => key
  | wrongKind => "a value is of the wrong kind"
  | noObject => "a value is no object"
  | noSuchPlace => "a row is too short"
  | integer cause => cause.message
  | noSlash => "not enough values to unpack (expected 2, got 1)"
  | fewDevices count =>
    "not enough values to unpack (expected at least 2, got " ++ toString count ++ ")"
  | noSection => "substring not found"
  | noText offset => "no UTF-8 text from byte " ++ toString offset ++ " on"
  | surrogates cause => cause.message
  | unbounded cause => cause.message
  | manyDays days =>
    if -0x80000000 ≤ days ∧ days < 0x80000000 then
      "days=" ++ toString days ++ "; must have magnitude <= 999999999"
    else "Python int too large to convert to C int"
  | @longWait cause => cause.message
  | expired wait => wait.message
  | shell text => text
  | snippet _ device text => labelled device text
  | system cause => cause.message
  | readerStarted descriptor =>
    "Packet reader on fd " ++ toString descriptor ++ " already started."
  | condition text => text
  | checkFailed => "a check failed"

end ThreadLab
