import ThreadLab.Json.Equality
import ThreadLab.Json.Text

namespace ThreadLab

inductive Code where
  | number (value : Int)
  | word (value : Text)
deriving DecidableEq

namespace Code

def json : Code → Json
  | number value => .integer value
  | word value => .text value

def text : Code → Text
  | number value => toString value
  | word value => value

end Code

class Vocabulary (α : Type) where
  title : Text
  group : Option Text
  members : List α
  name : α → Text
  code : α → Code

namespace Vocabulary

structure UnknownValue where
  value : Json
  title : Text

def UnknownValue.message (fault : UnknownValue) : Text :=
  fault.value.shown ++ " is not a valid " ++ fault.title

variable (α : Type) [Vocabulary α]

def fullTitle : Text :=
  match group α with
  | none => title α
  | some group => group ++ "." ++ title α

variable {α}

/-- Codes are compared as JSON values, so that 1.0 and true name the member that 1 names. -/
def ofJson (value : Json) : Except UnknownValue α :=
  match (members : List α).find? fun member => (code member).json.same value with
  | some member => .ok member
  | none => .error ⟨value, fullTitle α⟩

def ofName? (word : Text) : Option α :=
  (members : List α).find? fun member => name member == word

end Vocabulary

end ThreadLab
