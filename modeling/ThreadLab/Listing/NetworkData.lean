import ThreadLab.Fault
import ThreadLab.Text.Search

namespace ThreadLab.Listing.NetworkData

def prefixesTitle : Text := "Prefixes:"

def routesTitle : Text := "Routes:"

/-- The text from the first title of the prefixes up to the first title of the routes after it. -/
def prefixes (listing : Text) : Except Fault Text :=
  match Text.breakOn prefixesTitle listing with
  | none => .error .noSection
  | some (_, found) =>
    match Text.breakOn routesTitle found with
    | none => .error .noSection
    | some (body, _) => .ok body

end ThreadLab.Listing.NetworkData
