import ThreadLab.Json.Basic

namespace ThreadLab.Json

def sameNumber (left right : Json) : Bool :=
  match left.number?, right.number? with
  | some left, some right => decide (left = right)
  | _, _ => false

mutual

def same : Json → Json → Bool
  | null, null => true
  | text left, text right => left == right
  | array left, array right => sameItems left right
  | object left, object right => left.length == right.length && fieldsIn left right
  | bool left, right => sameNumber (bool left) right
  | integer left, right => sameNumber (integer left) right
  | real left, right => sameNumber (real left) right
  | _, _ => false
termination_by structural left => left

def sameItems : List Json → List Json → Bool
  | [], [] => true
  | left :: lefts, right :: rights => same left right && sameItems lefts rights
  | _, _ => false
termination_by structural left => left

def fieldsIn : List (Text × Json) → List (Text × Json) → Bool
  | [], _ => true
  | (key, left) :: lefts, rights =>
    (match rights.lookup key with
      | some right => same left right
      | none => false) && fieldsIn lefts rights
termination_by structural left => left

end

/-- Equality of two values that are not parts of anything. -/
def equals (left right : Json) : Bool :=
  left.same right && decide (left.number? ≠ some .nan)

@[simp]
theorem same_integer (left right : Int) :
    same (integer left) (integer right) = decide (left = right) :=
  decide_eq_decide.mpr ⟨Number.ofInt_inj, congrArg Number.ofInt⟩

end ThreadLab.Json
