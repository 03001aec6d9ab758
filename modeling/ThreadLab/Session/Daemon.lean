import ThreadLab.Listing.NetworkData
import ThreadLab.Session.Act

namespace ThreadLab.Session

def daemonCommand (device : Nat) (command : Text) : Act Text :=
  Act.shellText device ("ot-ctl " ++ command)

def networkData (device : Nat) : Act Text :=
  daemonCommand device "netdata show"

def networkPrefixes (device : Nat) : Act Text := do
  Act.ofExcept (Listing.NetworkData.prefixes (← networkData device))

end ThreadLab.Session
