import ThreadLab.Binary64.Shortest
import ThreadLab.Json.Basic
import ThreadLab.Text.Quoted

namespace ThreadLab.Json

mutual

def shown : Json → Text
  | null => "None"
  | bool value => if value then "True" else "False"
  | integer value => toString value
  | real value => value.text
  | text value => Text.quoted value
  | array items => "[" ++ List.intercalate ", " (shownItems items) ++ "]"
  | object fields => "\x7b" ++ List.intercalate ", " (shownFields fields) ++ "\x7d"
termination_by structural value => value

def shownItems : List Json → List Text
  | [] => []
  | item :: items => shown item :: shownItems items
termination_by structural items => items

def shownFields : List (Text × Json) → List Text
  | [] => []
  | (key, value) :: fields => (Text.quoted key ++ ": " ++ shown value) :: shownFields fields
termination_by structural fields => fields

end

/-- The value as it stands in the middle of a message: a text is written as it is. -/
def plain : Json → Text
  | text value => value
  | value => value.shown

end ThreadLab.Json
