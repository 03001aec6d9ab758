import ThreadLab.Ip.V6.Printer
import ThreadLab.Text.Search
import ThreadLab.Text.Split

namespace ThreadLab.Listing.Groups

/-- Whether the canonical text of an address stands on some line. -/
def names (listing : Text) (address : Ip.V6) : Bool :=
  (Text.lines listing).any (Text.occursIn address.text)

end ThreadLab.Listing.Groups
