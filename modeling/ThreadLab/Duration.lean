import ThreadLab.Clock
import ThreadLab.Text.Numeral

namespace ThreadLab

structure Duration where
  micros : Int
deriving DecidableEq

namespace Duration

def ofSeconds (seconds : Int) : Duration :=
  ⟨seconds * 1000000⟩

def ofMillis (millis : Int) : Duration :=
  ⟨millis * 1000⟩

def days (duration : Duration) : Int :=
  duration.micros / 86400000000

def counted (duration : Duration) : Int :=
  Clock.counted duration.micros

def text (duration : Duration) : Text :=
  let rest := (duration.micros % 86400000000).toNat
  let padded (width number : Nat) : Text := (Positional.digits 10 width number).map Text.digitChar
  let unit := if duration.days = 1 ∨ duration.days = -1 then " day, " else " days, "
  let front : Text := if duration.days = 0 then "" else toString duration.days ++ unit
  let fraction : Text :=
    if rest % 1000000 = 0 then "" else "." ++ padded 6 (rest % 1000000)
  front ++ toString (rest / 3600000000) ++ ":" ++ padded 2 (rest / 60000000 % 60) ++ ":" ++
    padded 2 (rest / 1000000 % 60) ++ fraction

end Duration

end ThreadLab
