import ThreadLab.Binary64.Nearest

namespace ThreadLab

/-- What a program sees of the time. Instants and spans are in microseconds; whoever waits for a span
may wake up early or late. -/
structure Clock where
  /-- The first instant at which a span is over that begins at an instant. -/
  deadline : Int → Rat → Except Number.Unbounded Int
  lasts : Int → Int
  longestWait : Option Int
  /-- How numbers of seconds and milliseconds are rounded. -/
  round : Rat → Rat

namespace Clock

def microsPerSecond : Int := 1000000

def seconds (span : Rat) (perSecond : Int) : Binary64 :=
  Binary64.ofRat (span / Rat.ofInt perSecond)

def micros (seconds : Binary64) : Number :=
  match seconds with
  | .finite number =>
    match Binary64.ofRat (number.value * Rat.ofInt microsPerSecond) with
    | .finite scaled => .ofInt (Binary64.roundRat scaled.value)
    | beyond => beyond.number
  | beyond => beyond.number

/-- The microseconds that are counted for a whole number of them in seconds of 64 bits; a number that
is too large for those stays as it is. -/
def counted (span : Int) : Int :=
  match micros (seconds (Rat.ofInt span) microsPerSecond) with
  | .finite value => value.num
  | _ => span

/-- A clock of exact microseconds. No wait is longer than 2^63 nanoseconds. -/
def exact : Clock where
  deadline start span := .ok (start + span.ceil)
  lasts := id
  longestWait := some 9223372036854775
  round := id

def binary : Clock :=
  { exact with round := Binary64.nearestRat }

/-- A clock that is moved by hand: by the microseconds that are nearest to seconds of 64 bits. -/
def stepped : Clock where
  deadline start span := do
    let counted ← (micros (seconds span microsPerSecond)).bounded
    return start + counted.num
  lasts := counted
  longestWait := none
  round := id

variable (clock : Clock)

def refuses (span : Int) : Bool :=
  match clock.longestWait with
  | some longest => decide (longest < span)
  | none => false

def reading (now : Int) : Rat :=
  clock.round (Rat.ofInt now / Rat.ofInt microsPerSecond)

def millis (now : Int) : Int :=
  Number.truncate (clock.round (clock.reading now * 1000))

end Clock

end ThreadLab
