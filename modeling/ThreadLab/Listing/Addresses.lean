import ThreadLab.Fault
import ThreadLab.LinkAddress
import ThreadLab.Text.Blank
import ThreadLab.Text.Integer
import ThreadLab.Text.Search

namespace ThreadLab.Listing.Addresses

def lengthMark : CodePoint := '/'

def cutAtSlash (word : Text) : Except Fault (Text × Text) :=
  match word.dropWhile (· ≠ lengthMark) with
  | [] => .error .noSlash
  | _ :: size => .ok (word.takeWhile (· ≠ lengthMark), size)

def addressWord (line : Text) : Except Fault (Text) :=
  match Text.words line with
  | _ :: word :: _ => .ok word
  | _ => .error .noSuchPlace

def readSize (size : Text) : Except Fault Int :=
  (Text.Integer.read size).mapError .integer

/-- The time since which an address is deprecated: the present, where the line says that it is. -/
def deprecationTime (time : Int) (line : Text) : Int :=
  if Text.occursIn "deprecated" line then time else Settings.permanent

def readLine (time : Int) (line : Text) : Except Fault LinkAddress := do
  let word ← addressWord line
  let (spelling, size) ← cutAtSlash word
  let address ← (Ip.V6.parse spelling).mapError .address
  let prefixLength ← readSize size
  return { address, prefixLength := .integer prefixLength,
           deprecationTime := .integer (deprecationTime time line) }

def isAddressLine (line : Text) : Bool :=
  Text.occursIn "inet6" line

def read (time : Int) (listing : Text) : Except Fault (List LinkAddress) :=
  ((Text.lines listing).filter isAddressLine).mapM (readLine time)

end ThreadLab.Listing.Addresses
