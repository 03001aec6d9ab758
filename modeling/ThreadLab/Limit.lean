import ThreadLab.Fault

namespace ThreadLab

def Duration.mostDays : Int := 999999999

def Duration.ofMicros (micros : Int) : Except Fault Duration :=
  let duration : Duration := ⟨micros⟩
  if -mostDays ≤ duration.days ∧ duration.days ≤ mostDays then .ok duration
  else .error (.manyDays duration.days)

def Duration.ofJson (value : Json) : Except Fault Duration :=
  match value.number? with
  | none => .error .wrongKind
  | some number => do
    let micros ← number.bounded.mapError .unbounded
    ofMicros (Binary64.roundRat micros)

namespace Clock

/-- The microseconds in a number of milliseconds, which has to be one of seconds too. -/
def spanOfMillis (millis : Json) : Except Fault Rat :=
  match millis.number? with
  | none => .error .wrongKind
  | some (.finite value) =>
    match seconds value 1000 with
    | .finite _ => .ok (value * 1000)
    | _ => .error (@Fault.longWait .seconds)
  | some (.infinite _) => .error (.unbounded .infinite)
  | some .nan => .error (.unbounded .nan)

def deadlineOfMillis (clock : Clock) (start : Int) (millis : Json) : Except Fault Int := do
  let span ← spanOfMillis millis
  (clock.deadline start span).mapError .unbounded

end Clock

end ThreadLab
