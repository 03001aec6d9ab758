import ThreadLab.Ip.Reference
import ThreadLab.Listing.Addresses
import ThreadLab.Listing.Groups
import ThreadLab.Session.Act

namespace ThreadLab.Session

def groupsCommand (interface : Text) : Text :=
  "ip -6 maddr show dev " ++ interface

def addressesCommand (interface : Text) : Text :=
  "ip -6 addr show dev " ++ interface

/-- Whether an interface is a member of a multicast group. The address is read after the listing. -/
def isInGroup (device : Nat) (interface : Text) (group : Ip.Reference) : Act Bool := do
  let listing ← Act.shellText device (groupsCommand interface)
  let address ← Act.ofExcept ((Ip.V6.ofJson group.json).mapError .address)
  return Listing.Groups.names listing address

def waitForGroup (device : Nat) (interface : Text) (group : Ip.Reference) (limit : Duration) :
    Act Unit :=
  Act.waitFor (isInGroup device interface group) limit

def linkAddresses (device : Nat) (interface : Text) : Act (List LinkAddress) := do
  let listing ← Act.shellText device (addressesCommand interface)
  Act.ofExcept (Listing.Addresses.read (← Act.millis) listing)

end ThreadLab.Session
