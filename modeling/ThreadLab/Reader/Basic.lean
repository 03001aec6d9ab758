import ThreadLab.Fault

namespace ThreadLab

inductive Reading where
  | frame (bytes : Bytes)
  | failure
deriving DecidableEq

/-- What has become of the loop: none was asked for, it has not begun yet, it reads, or it ended by
itself. -/
inductive Reader.Phase where
  | stopped
  | starting
  | reading
  | ended
deriving DecidableEq

structure Reader where
  descriptor : Int
  mtu : Int
  phase : Reader.Phase := .stopped
  buffer : List Bytes := []
deriving DecidableEq

namespace Reader

def isRunning (reader : Reader) : Bool :=
  reader.phase == .reading

/-- A reader counts as started until it is stopped, also when its loop has ended by itself. -/
def isStarted (reader : Reader) : Bool :=
  reader.phase != .stopped

/-- The bytes that one reading gives: at most `mtu`, and none at the end of the descriptor, after
a failure, or when nothing can be asked for. -/
def received (reader : Reader) : Reading → Bytes
  | .frame bytes => bytes.take reader.mtu.toNat
  | .failure => []

def read (reader : Reader) (reading : Reading) : Reader :=
  match reader.received reading with
  | [] => { reader with phase := .ended }
  | frame => { reader with buffer := reader.buffer ++ [frame] }

def readAll (reader : Reader) : List Reading → Reader × List Reading
  | [] => (reader, [])
  | reading :: unread =>
    if reader.isRunning then (reader.read reading).readAll unread else (reader, reading :: unread)

def start (reader : Reader) : Except Fault Reader :=
  match reader.phase with
  | .stopped => .ok { reader with phase := .starting }
  | _ => .error (.readerStarted reader.descriptor)

def enter (reader : Reader) : Reader :=
  match reader.phase with
  | .starting => { reader with phase := .reading }
  | _ => reader

def stop (reader : Reader) : Reader :=
  { reader with phase := .stopped }

/-- Takes frames out up to the first that is accepted; those before it are dropped. -/
def takeFirst (accepts : Bytes → Except Fault Bool) :
    List Bytes → Except Fault (Option Bytes) × List Bytes
  | [] => (.ok none, [])
  | frame :: frames =>
    match accepts frame with
    | .error fault => (.error fault, frames)
    | .ok true => (.ok (some frame), frames)
    | .ok false => takeFirst accepts frames

/-- What a search ends in that has looked. One that found nothing goes on until its deadline, if the
clock takes a wait that long. -/
def answer (clock : Clock) (deadline now : Int) (found : Except Fault (Option Bytes)) :
    Option (Except Fault (Option Bytes)) :=
  match found with
  | .ok none =>
    if deadline ≤ now then some (.ok none)
    else if clock.refuses (deadline - now) then some (.error (@Fault.longWait .system))
    else none
  | ended => some ended

theorem answer_eq_none {clock : Clock} {deadline now : Int} {found : Except Fault (Option Bytes)} :
    answer clock deadline now found = none ↔
      found = .ok none ∧ now < deadline ∧ clock.refuses (deadline - now) = false := by
  rcases found with fault | _ | frame
  · simp [answer]
  · unfold answer
    dsimp only
    split
    · simp [Int.not_lt.mpr ‹_›]
    · split <;> simp_all
  · simp [answer]

end Reader

end ThreadLab
