import ThreadLab.Limit
import ThreadLab.Reader.Basic
import ThreadLab.Settings

namespace ThreadLab

/-- Time is in microseconds. -/
structure Tap where
  reader : Reader
  unread : List Reading := []
  now : Int := 0
  clock : Clock := .stepped

structure Arrival where
  instant : Int
  frame : Bytes

namespace Tap

def settle (tap : Tap) : Tap :=
  let (reader, unread) := tap.reader.readAll tap.unread
  { tap with reader, unread }

def queue (tap : Tap) (reading : Reading) : Tap :=
  { tap with unread := tap.unread ++ [reading] }.settle

def arrive (tap : Tap) (arrivals : List Arrival) : Tap :=
  arrivals.foldl (fun tap arrival => tap.queue (.frame arrival.frame)) tap

/-- Starts the reader. A loop that is stalled never begins; a caller who waits for it to begin is
told so when `limit` is over. -/
def start (tap : Tap) (limit : Option Duration) (stalled : Bool) : Except Fault Unit × Tap :=
  match tap.reader.start with
  | .error fault => (.error fault, tap)
  | .ok reader =>
    if stalled then
      match limit with
      | some limit =>
        if tap.clock.refuses limit.micros then
          (.error (@Fault.longWait .system), { tap with reader })
        else (.error (.expired (.readerStart reader.descriptor limit)), { tap with reader })
      | none => (.ok (), { tap with reader })
    else (.ok (), { tap with reader := reader.enter }.settle)

def stop (tap : Tap) : Tap :=
  { tap with reader := tap.reader.stop }

def renew (tap : Tap) : Except Fault Unit × Tap :=
  { tap with reader := { descriptor := tap.reader.descriptor, mtu := tap.reader.mtu } }.start
    (some Settings.readerStartTimeout) false

@[simp]
theorem now_queue (tap : Tap) (reading : Reading) : (tap.queue reading).now = tap.now := rfl

/-- What a wait for a frame comes to; `missed` are the arrivals that it did not wait for. -/
structure Poll where
  result : Except Fault (Option Bytes)
  tap : Tap
  missed : List Arrival

def wake (tap : Tap) (deadline : Int) : Int :=
  tap.now + max 1 (tap.clock.lasts (deadline - tap.now))

theorem lt_wake (tap : Tap) (deadline : Int) : tap.now < tap.wake deadline := by
  rw [wake]
  omega

/-- Looks for a frame now, and then after each arrival until the deadline. -/
def pollUntil (accepts : Bytes → Except Fault Bool) (deadline : Int) (tap : Tap)
    (arrivals : List Arrival) : Poll :=
  let taken := Reader.takeFirst accepts tap.reader.buffer
  let looked := { tap with reader := { tap.reader with buffer := taken.2 } }
  match _ : Reader.answer tap.clock deadline tap.now taken.1 with
  | some result => ⟨result, looked, arrivals⟩
  | none =>
    match arrivals with
    | [] => pollUntil accepts deadline { looked with now := tap.wake deadline } []
    | arrival :: later =>
      if arrival.instant ≤ tap.wake deadline then
        pollUntil accepts deadline
          ({ looked with now := max tap.now arrival.instant }.queue (.frame arrival.frame)) later
      else pollUntil accepts deadline { looked with now := tap.wake deadline } (arrival :: later)
termination_by (deadline - tap.now).toNat + arrivals.length
decreasing_by
  all_goals
    have early := (Reader.answer_eq_none.mp ‹_›).2.1
    have later := tap.lt_wake deadline
    simp only [now_queue, List.length_cons, List.length_nil]
    omega

section

variable {accepts : Bytes → Except Fault Bool} {deadline : Int} {tap : Tap} {buffer : List Bytes}
  {found : Except Fault (Option Bytes)}

theorem pollUntil_ends {result : Except Fault (Option Bytes)}
    (taken : Reader.takeFirst accepts tap.reader.buffer = (found, buffer))
    (answered : Reader.answer tap.clock deadline tap.now found = some result)
    (arrivals : List Arrival) :
    pollUntil accepts deadline tap arrivals =
      ⟨result, { tap with reader := { tap.reader with buffer } }, arrivals⟩ := by
  rw [pollUntil.eq_def, taken]
  dsimp only
  rw [answered]

theorem pollUntil_nap (taken : Reader.takeFirst accepts tap.reader.buffer = (found, buffer))
    (waits : Reader.answer tap.clock deadline tap.now found = none) {arrivals : List Arrival}
    (distant : ∀ arrival ∈ arrivals.head?, ¬arrival.instant ≤ tap.wake deadline) :
    pollUntil accepts deadline tap arrivals =
      pollUntil accepts deadline
        { tap with reader := { tap.reader with buffer }, now := tap.wake deadline } arrivals := by
  rw [pollUntil.eq_def, taken]
  dsimp only
  rw [waits]
  cases arrivals with
  | nil => rfl
  | cons arrival later => exact if_neg (distant arrival rfl)

theorem pollUntil_arrival (taken : Reader.takeFirst accepts tap.reader.buffer = (found, buffer))
    (waits : Reader.answer tap.clock deadline tap.now found = none) {arrival : Arrival}
    (soon : arrival.instant ≤ tap.wake deadline) (later : List Arrival) :
    pollUntil accepts deadline tap (arrival :: later) =
      pollUntil accepts deadline
        (Tap.queue { tap with reader := { tap.reader with buffer }, now := max tap.now arrival.instant }
          (.frame arrival.frame)) later := by
  rw [pollUntil.eq_def, taken]
  dsimp only
  rw [waits]
  exact if_pos soon

/-- A poll ends, naps until it looks at the clock again or wakes up for the next arrival. -/
theorem pollUntil_induction (accepts : Bytes → Except Fault Bool) (deadline : Int)
    {motive : Tap → List Arrival → Prop}
    (ends : ∀ (tap : Tap) (arrivals : List Arrival) (found result : Except Fault (Option Bytes))
      (buffer : List Bytes), Reader.takeFirst accepts tap.reader.buffer = (found, buffer) →
        Reader.answer tap.clock deadline tap.now found = some result → motive tap arrivals)
    (nap : ∀ (tap : Tap) (arrivals : List Arrival) (found : Except Fault (Option Bytes))
      (buffer : List Bytes), Reader.takeFirst accepts tap.reader.buffer = (found, buffer) →
        Reader.answer tap.clock deadline tap.now found = none →
        (∀ arrival ∈ arrivals.head?, ¬arrival.instant ≤ tap.wake deadline) →
          motive { tap with reader := { tap.reader with buffer }, now := tap.wake deadline }
            arrivals → motive tap arrivals)
    (arrival : ∀ (tap : Tap) (arrival : Arrival) (later : List Arrival)
      (found : Except Fault (Option Bytes)) (buffer : List Bytes),
      Reader.takeFirst accepts tap.reader.buffer = (found, buffer) →
        Reader.answer tap.clock deadline tap.now found = none →
        arrival.instant ≤ tap.wake deadline →
          motive (Tap.queue { tap with
            reader := { tap.reader with buffer }, now := max tap.now arrival.instant }
              (.frame arrival.frame)) later → motive tap (arrival :: later))
    (tap : Tap) (arrivals : List Arrival) : motive tap arrivals := by
  induction tap, arrivals using pollUntil.induct accepts deadline with
  | case1 tap arrivals taken result answered =>
    exact ends tap arrivals taken.1 result taken.2 rfl answered
  | case2 tap taken looked waits again => exact nap tap [] taken.1 taken.2 rfl waits nofun again
  | case3 tap taken looked waits next later soon again =>
    exact arrival tap next later taken.1 taken.2 rfl waits soon again
  | case4 tap taken looked waits next later distant again =>
    refine nap tap (next :: later) taken.1 taken.2 rfl waits ?_ again
    rintro other ⟨rfl⟩
    exact distant

end

/-- Waits for a frame that is accepted; whatever arrives after the wait is queued. -/
def pollTo (tap : Tap) (deadline : Int) (accepts : Bytes → Except Fault Bool)
    (arrivals : List Arrival) : Except Fault (Option Bytes) × Tap :=
  let poll := pollUntil accepts deadline tap arrivals
  (poll.result, poll.tap.arrive poll.missed)

def poll (tap : Tap) (span : Int) (accepts : Bytes → Except Fault Bool) (arrivals : List Arrival) :
    Except Fault (Option Bytes) × Tap :=
  tap.pollTo (tap.now + span) accepts arrivals

def pollFor (tap : Tap) (millis : Json) (accepts : Bytes → Except Fault Bool)
    (arrivals : List Arrival) : Except Fault (Option Bytes) × Tap :=
  match tap.clock.deadlineOfMillis tap.now millis with
  | .ok deadline => tap.pollTo deadline accepts arrivals
  | .error fault => (.error fault, tap.arrive arrivals)

end Tap

end ThreadLab
