import ThreadLab.Service.Equality

namespace ThreadLab.Service

inductive Criterion where
  | any
  | never
  | hosts (atLeast : Json)
  | port (value : Json)
  | hasKey (key : Json)
  | hasField (key : Json) (value : Bytes)
  | name (value : Json)

/-- The bytes under a key; only texts are keys, and lists and objects cannot be asked for. -/
def Info.attribute? (info : Info) (key : Json) : Except Fault (Option Bytes) :=
  match key with
  | .text key => .ok (info.attributes.lookup key)
  | key => if key.isHashable then .ok none else .error .wrongKind

def Criterion.holds (info : Info) : Criterion → Except Fault Bool
  | any => .ok true
  | never => .ok false
  | hosts atLeast =>
    match atLeast.number? with
    | some number => .ok (number.isAtMost info.hosts.length)
    | none => .error .wrongKind
  | port value => .ok (info.port.equals value)
  | hasKey key => Option.isSome <$> info.attribute? key
  | hasField key value => (· == some value) <$> info.attribute? key
  | name value => .ok (info.name.equals value)

end ThreadLab.Service
