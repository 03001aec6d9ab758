import ThreadLab.Binary64.Basic

namespace ThreadLab

inductive Json where
  | null
  | bool (value : Bool)
  | integer (value : Int)
  | real (value : Binary64)
  | text (value : Text)
  | array (items : List Json)
  | object (fields : List (Text × Json))
deriving Inhabited

namespace Json

/-- Whether a value counts as true: nothing, false, zero and whatever is empty do not. -/
def isTruthy : Json → Bool
  | null => false
  | bool value => value
  | integer value => value != 0
  | real value => !value.isZero
  | text value => !value.isEmpty
  | array items => !items.isEmpty
  | object fields => !fields.isEmpty

/-- The value as a number, where true is one and false is zero. -/
def number? : Json → Option Number
  | bool value => some (.ofInt (if value then 1 else 0))
  | integer value => some (.ofInt value)
  | real value => some value.number
  | _ => none

def integer? : Json → Option Int
  | bool value => some (if value then 1 else 0)
  | integer value => some value
  | _ => none

/-- The values that a value goes through when it is taken apart: a text its characters, an object
its keys. -/
def elements? : Json → Option (List Json)
  | array items => some items
  | text value => some (value.map fun c => text [c])
  | object fields => some (fields.map fun field => text field.1)
  | _ => none

def isHashable : Json → Bool
  | array _ | object _ => false
  | _ => true

end Json

end ThreadLab
