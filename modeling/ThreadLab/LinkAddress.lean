import ThreadLab.Ip.V6.Printer
import ThreadLab.Json.Equality
import ThreadLab.Json.Text
import ThreadLab.Settings

namespace ThreadLab

/-- Times are in milliseconds since the device started. -/
structure LinkAddress where
  address : Ip.V6
  prefixLength : Json
  flags : Json := .integer 0
  scope : Json := .integer 0
  deprecationTime : Json := .integer Settings.permanent
  expirationTime : Json := .integer Settings.permanent

namespace LinkAddress

def isDeprecated (link : LinkAddress) : Bool :=
  !link.deprecationTime.same (.integer Settings.permanent)

def same (left right : LinkAddress) : Bool :=
  left.address == right.address && left.prefixLength.same right.prefixLength &&
    left.flags.same right.flags && left.scope.same right.scope &&
    left.deprecationTime.same right.deprecationTime &&
    left.expirationTime.same right.expirationTime

def text (link : LinkAddress) : Text :=
  link.address.text ++ "/" ++ link.prefixLength.plain

end LinkAddress

end ThreadLab
