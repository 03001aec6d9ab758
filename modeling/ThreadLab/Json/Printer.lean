import ThreadLab.Binary64.Shortest
import ThreadLab.Json.Basic
import ThreadLab.Text.Numeral

namespace ThreadLab.Json

def printPoint (c : CodePoint) : Text :=
  if c = '"' ∨ c = '\\' then ['\\', c]
  else if c.toNat < 0x20 ∨ c.isSurrogate then "\\u" ++ Text.hexDigits 4 c.toNat
  else [c]

def printText (value : Text) : Text :=
  "\"" ++ value.flatMap printPoint ++ "\""

def printReal : Binary64 → Text
  | .finite number => number.text
  | .infinite negative => if negative then "-Infinity" else "Infinity"
  | .nan => "NaN"

mutual

def print : Json → Text
  | null => "null"
  | bool value => if value then "true" else "false"
  | integer value => toString value
  | real value => printReal value
  | text value => printText value
  | array items => "[" ++ List.intercalate "," (printItems items) ++ "]"
  | object fields => "\x7b" ++ List.intercalate "," (printFields fields) ++ "\x7d"
termination_by structural value => value

def printItems : List Json → List Text
  | [] => []
  | item :: items => print item :: printItems items
termination_by structural items => items

def printFields : List (Text × Json) → List Text
  | [] => []
  | (key, value) :: fields => (printText key ++ ":" ++ print value) :: printFields fields
termination_by structural fields => fields

end

end ThreadLab.Json
