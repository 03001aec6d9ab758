import ThreadLab.Ip.V6.Basic
import ThreadLab.Text.Numeral
import ThreadLab.Text.Split

namespace ThreadLab.Ip.V6

def zerosInFront (groups : List Nat) : Nat :=
  (groups.takeWhile (· = 0)).length

/-- Where the longest run of zeros starts, and its length; of equal runs the first. -/
def longestRun : List Nat → Nat × Nat
  | [] => (0, 0)
  | group :: groups =>
    let here := zerosInFront (group :: groups)
    let (start, size) := longestRun groups
    if size ≤ here then (0, here) else (start + 1, size)

def joinGroups (groups : List Nat) : Text :=
  Text.join ':' (groups.map (Text.numeral 16 4))

def compress (groups : List Nat) : Text :=
  let (start, size) := longestRun groups
  if 2 ≤ size then
    joinGroups (groups.take start) ++ "::" ++ joinGroups (groups.drop (start + size))
  else joinGroups groups

def text (address : V6) : Text :=
  compress address.groups ++
    (match address.scope with
      | none => []
      | some scope => scopeMark :: scope.text)

end ThreadLab.Ip.V6
