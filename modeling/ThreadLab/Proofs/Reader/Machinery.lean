import ThreadLab.Proofs.Reader.Scene

namespace ThreadLab.Reader

/-- Where a loop stands: its thread was begun, it is about to check whether to stop, it is at the
descriptor, it has read a frame that is not in the buffer yet, it has left the loop but not said so, or
it is over. -/
inductive Stage where
  | begun
  | checking
  | atDescriptor
  | holding (reading : Reading)
  | closing
  | ended
deriving DecidableEq

def Stage.isEntered : Stage → Bool
  | begun | ended => false
  | _ => true

/-- Where the caller stands: between two calls, in a start before its thread is begun, in a start that
waits until the loop runs, or in a stop that waits until the loop is over. -/
inductive Caller where
  | idle
  | starting (waits : Bool)
  | confirming
  | joining
deriving DecidableEq

inductive Milestone where
  | started
  | stopped
deriving DecidableEq

/-- The last three fields are a history: frames that were put into the buffer, frames that were taken
out, and what the caller has brought about. -/
structure Machinery where
  descriptor : Int
  mtu : Int
  buffer : List Bytes := []
  running : Bool := false
  stopping : Bool := false
  handle : Option Nat := none
  loops : List Stage := []
  caller : Caller := .idle
  arrived : List Bytes := []
  removed : List Bytes := []
  milestones : List Milestone := []

namespace Machinery

inductive Move where
  | start (waits : Bool)
  | spawn
  | settle
  | stop
  | join
  | look (accepts : Bytes → Except Fault Bool)
  | turn (place : Nat) (reading : Option Reading)

def received (machinery : Machinery) (reading : Reading) : Bytes :=
  Reader.received { descriptor := machinery.descriptor, mtu := machinery.mtu } reading

def stage (machinery : Machinery) : Option Stage :=
  machinery.handle.bind fun place => machinery.loops[place]?

def requested (machinery : Machinery) (waits : Bool) : Machinery :=
  { machinery with
    stopping := false
    caller := .starting waits
    milestones := machinery.milestones ++ [.started] }

def request (machinery : Machinery) (waits : Bool) : Except Fault Machinery :=
  match machinery.handle with
  | some _ => .error (.readerStarted machinery.descriptor)
  | none => .ok (machinery.requested waits)

def spawned (machinery : Machinery) (caller : Caller) : Machinery :=
  { machinery with
    handle := some machinery.loops.length
    loops := machinery.loops ++ [.begun]
    caller }

def advance (machinery : Machinery) (place : Nat) (stage : Stage) : Machinery :=
  { machinery with loops := machinery.loops.set place stage }

/-- The next step of a loop, by where it stands. What it meets at the descriptor is a reading, or nothing
for a while. -/
def proceed (machinery : Machinery) (place : Nat) (reading : Option Reading) : Stage → Machinery
  | .begun => { machinery with running := true }.advance place .checking
  | .checking => machinery.advance place (if machinery.stopping then .closing else .atDescriptor)
  | .atDescriptor =>
    match reading with
    | none => machinery.advance place .checking
    | some reading =>
      machinery.advance place
        (if machinery.received reading = [] then .closing else .holding reading)
  | .holding reading =>
    { machinery with
      buffer := machinery.buffer ++ [machinery.received reading]
      arrived := machinery.arrived ++ [machinery.received reading] }.advance place .checking
  | .closing => { machinery with running := false }.advance place .ended
  | .ended => machinery

def turn (machinery : Machinery) (place : Nat) (reading : Option Reading) : Machinery :=
  match machinery.loops[place]? with
  | some stage => machinery.proceed place reading stage
  | none => machinery

/-- A move that is not possible changes nothing: a call begins when the one before has ended, and a
stop ends when the loop is over. A start that waits can end at any time: when the loop runs, or when it
has waited long enough. -/
def move (machinery : Machinery) : Move → Machinery
  | .start waits =>
    match machinery.caller, machinery.request waits with
    | .idle, .ok requested => requested
    | _, _ => machinery
  | .spawn =>
    match machinery.caller with
    | .starting waits => machinery.spawned (if waits then .confirming else .idle)
    | _ => machinery
  | .settle =>
    if machinery.caller = .confirming then { machinery with caller := .idle } else machinery
  | .stop =>
    if machinery.caller = .idle ∧ machinery.handle.isSome then
      { machinery with stopping := true, caller := .joining }
    else machinery
  | .join =>
    if machinery.caller = .joining ∧ machinery.stage = some .ended then
      { machinery with
        handle := none
        caller := .idle
        milestones := machinery.milestones ++ [.stopped] }
    else machinery
  | .look accepts => { machinery with
      buffer := (takeFirst accepts machinery.buffer).2
      removed := machinery.removed ++ passed accepts machinery.buffer }
  | .turn place reading => machinery.turn place reading

def run (machinery : Machinery) (moves : List Move) : Machinery :=
  moves.foldl move machinery

def opening (descriptor mtu : Int) : Machinery where
  descriptor
  mtu

/-- Where the caller can stand: a loop is asked to stop only by the stop that waits for it. -/
def Agreed (caller : Caller) (handle : Option Nat) (stopping : Bool) : Prop :=
  match caller, handle with
  | .idle, none => True
  | .idle, some _ | .starting _, none | .confirming, some _ => stopping = false
  | .joining, some _ => stopping = true
  | .starting _, some _ | .confirming, none | .joining, none => False

def IsStarted (machinery : Machinery) : Prop :=
  machinery.milestones.getLast? = some Milestone.started

/-- How the parts fit together: every loop but that of the handle is over, and the running flag is up
while that one says so. -/
structure Sound (machinery : Machinery) : Prop where
  others : ∀ place stage, machinery.loops[place]? = some stage →
    machinery.handle ≠ some place → stage = .ended
  held : ∀ place, machinery.handle = some place → place < machinery.loops.length
  running : machinery.running = machinery.stage.any Stage.isEntered
  agreed : Agreed machinery.caller machinery.handle machinery.stopping
  started : machinery.IsStarted ↔
    machinery.handle.isSome ∨ ∃ waits, machinery.caller = .starting waits
  kept : ∀ reading, machinery.stage = some (.holding reading) → machinery.received reading ≠ []
  conserved : machinery.arrived = machinery.removed ++ machinery.buffer

theorem sound_opening (descriptor mtu : Int) : (opening descriptor mtu).Sound where
  others := nofun
  held := nofun
  running := rfl
  agreed := True.intro
  started := by simp [opening, IsStarted]
  kept := nofun
  conserved := rfl

variable {machinery : Machinery} {place : Nat}

/-- All that a move can change. -/
inductive Change (machinery : Machinery) : Move → Machinery → Prop
  | still {move : Move} : Change machinery move machinery
  | started {waits : Bool} (idle : machinery.caller = .idle) (unheld : machinery.handle = none) :
    Change machinery (.start waits) (machinery.requested waits)
  | spawned {waits : Bool} (starting : machinery.caller = .starting waits) :
    Change machinery .spawn (machinery.spawned (if waits then .confirming else .idle))
  | settled (confirming : machinery.caller = .confirming) :
    Change machinery .settle { machinery with caller := .idle }
  | asked (idle : machinery.caller = .idle) (held : machinery.handle.isSome) :
    Change machinery .stop { machinery with stopping := true, caller := .joining }
  | joined (joining : machinery.caller = .joining) (ended : machinery.stage = some .ended) :
    Change machinery .join { machinery with
      handle := none
      caller := .idle
      milestones := machinery.milestones ++ [.stopped] }
  | looked (accepts : Bytes → Except Fault Bool) :
    Change machinery (.look accepts) { machinery with
      buffer := (takeFirst accepts machinery.buffer).2
      removed := machinery.removed ++ passed accepts machinery.buffer }
  | turned (place : Nat) (reading : Option Reading) :
    Change machinery (.turn place reading) (machinery.turn place reading)

theorem request_eq_ok {waits : Bool} {requested : Machinery} :
    machinery.request waits = .ok requested ↔
      machinery.handle = none ∧ requested = machinery.requested waits := by
  unfold request
  split
  · rename_i held
    simp [held]
  · rename_i unheld
    simp [unheld, eq_comm]

theorem change_move (machinery : Machinery) (move : Move) :
    machinery.Change move (machinery.move move) := by
  cases move with
  | start waits =>
    unfold Machinery.move
    dsimp only
    split
    · rename_i idle granted
      obtain ⟨unheld, rfl⟩ := request_eq_ok.mp granted
      exact .started idle unheld
    · exact .still
  | spawn =>
    unfold Machinery.move
    dsimp only
    split
    · exact .spawned ‹_›
    · exact .still
  | settle =>
    unfold Machinery.move
    dsimp only
    split
    · exact .settled ‹_›
    · exact .still
  | stop =>
    unfold Machinery.move
    dsimp only
    split
    · rename_i possible
      exact .asked possible.1 possible.2
    · exact .still
  | join =>
    unfold Machinery.move
    dsimp only
    split
    · rename_i possible
      exact .joined possible.1 possible.2
    · exact .still
  | look accepts => exact .looked accepts
  | turn place reading => exact .turned place reading

theorem stage_of_handle (held : machinery.handle = some place) :
    machinery.stage = machinery.loops[place]? := by
  rw [stage, held]
  rfl

theorem exists_handle_of_stage {stage : Stage} (stands : machinery.stage = some stage) :
    ∃ place, machinery.handle = some place := by
  cases held : machinery.handle with
  | none => simp [Machinery.stage, held] at stands
  | some place => exact ⟨place, rfl⟩

theorem stage_spawned (machinery : Machinery) (caller : Caller) :
    (machinery.spawned caller).stage = some .begun := by
  have held : (machinery.spawned caller).handle = some machinery.loops.length := rfl
  rw [stage_of_handle held]
  exact List.getElem?_concat_length

theorem stage_advance (held : machinery.handle = some place)
    (inside : place < machinery.loops.length) (stage : Stage) :
    (machinery.advance place stage).stage = some stage := by
  have same : (machinery.advance place stage).handle = some place := held
  exact (stage_of_handle same).trans (List.getElem?_set_self inside)

theorem advance_advance (machinery : Machinery) (place : Nat) (first second : Stage) :
    (machinery.advance place first).advance place second = machinery.advance place second := by
  simp [advance]

theorem Sound.advance (sound : machinery.Sound) (held : machinery.handle = some place)
    {stage : Stage} {running : Bool} {buffer arrived : List Bytes} (flag : running = stage.isEntered)
    (kept : ∀ reading, stage = .holding reading → machinery.received reading ≠ [])
    (conserved : arrived = machinery.removed ++ buffer) :
    ({ machinery with running, buffer, arrived }.advance place stage).Sound := by
  have here : ({ machinery with running, buffer, arrived }.advance place stage).stage = some stage :=
    stage_advance held (sound.held place held) stage
  constructor
  case others =>
    intro other found at_other apart
    have elsewhere : place ≠ other := by
      rintro rfl
      exact apart held
    exact sound.others other found ((List.getElem?_set_ne elsewhere).symm.trans at_other) apart
  case held =>
    intro other same
    exact Nat.lt_of_lt_of_eq (sound.held other same) List.length_set.symm
  case running =>
    rw [here]
    exact flag
  case agreed => exact sound.agreed
  case started => exact sound.started
  case kept =>
    intro reading holds
    rw [here] at holds
    exact kept reading (Option.some.inj holds)
  case conserved => exact conserved

theorem turn_of_stage (held : machinery.handle = some place) {stage : Stage}
    (stands : machinery.stage = some stage) (reading : Option Reading) :
    machinery.turn place reading = machinery.proceed place reading stage := by
  rw [stage_of_handle held] at stands
  rw [Machinery.turn, stands]

theorem turn_of_ended (ended : ∀ stage, machinery.loops[place]? = some stage → stage = .ended)
    (reading : Option Reading) : machinery.turn place reading = machinery := by
  unfold Machinery.turn
  cases found : machinery.loops[place]? with
  | none => rfl
  | some stage =>
    rw [ended stage found]
    rfl

theorem Sound.exists_stage (sound : machinery.Sound) (held : machinery.handle = some place) :
    ∃ stage, machinery.stage = some stage :=
  ⟨_, (stage_of_handle held).trans (List.getElem?_eq_getElem (sound.held place held))⟩

theorem Sound.turn_of_other (sound : machinery.Sound) (apart : machinery.handle ≠ some place)
    (reading : Option Reading) : machinery.turn place reading = machinery :=
  turn_of_ended (fun stage found => sound.others place stage found apart) reading

theorem Sound.turn (sound : machinery.Sound) (place : Nat) (reading : Option Reading) :
    (machinery.turn place reading).Sound := by
  by_cases held : machinery.handle = some place
  case neg => rwa [sound.turn_of_other held]
  obtain ⟨stage, stands⟩ := sound.exists_stage held
  have running : machinery.running = stage.isEntered := by
    rw [sound.running, stands]
    rfl
  rw [turn_of_stage held stands]
  cases stage with
  | begun => exact sound.advance held rfl nofun sound.conserved
  | checking =>
    unfold proceed
    dsimp only
    split
    · exact sound.advance held running nofun sound.conserved
    · exact sound.advance held running nofun sound.conserved
  | atDescriptor =>
    cases reading with
    | none => exact sound.advance held running nofun sound.conserved
    | some reading =>
      unfold proceed
      dsimp only
      split
      · exact sound.advance held running nofun sound.conserved
      · rename_i some_bytes
        refine sound.advance held running ?_ sound.conserved
        intro other same
        cases same
        exact some_bytes
  | holding reading =>
    refine sound.advance held running nofun ?_
    rw [sound.conserved, List.append_assoc]
  | closing => exact sound.advance held rfl nofun sound.conserved
  | ended => exact sound

theorem Sound.of_caller (sound : machinery.Sound) {caller : Caller} {stopping : Bool}
    {milestones : List Milestone} (agreed : Agreed caller machinery.handle stopping)
    (started : milestones.getLast? = some .started ↔
      machinery.handle.isSome ∨ ∃ waits, caller = .starting waits) :
    Sound { machinery with caller, stopping, milestones } where
  others := sound.others
  held := sound.held
  running := sound.running
  agreed := agreed
  started := started
  kept := sound.kept
  conserved := sound.conserved

theorem Sound.of_starting (sound : machinery.Sound) {waits : Bool}
    (starting : machinery.caller = .starting waits) :
    machinery.handle = none ∧ machinery.stopping = false := by
  have agreed := sound.agreed
  rw [starting] at agreed
  generalize machinery.handle = handle at agreed
  cases handle with
  | none => exact ⟨rfl, agreed⟩
  | some place => exact agreed.elim

theorem Sound.of_confirming (sound : machinery.Sound) (confirming : machinery.caller = .confirming) :
    machinery.handle.isSome ∧ Agreed .idle machinery.handle machinery.stopping := by
  have agreed := sound.agreed
  rw [confirming] at agreed
  generalize machinery.handle = handle at agreed
  cases handle with
  | none => exact agreed.elim
  | some place => exact ⟨rfl, agreed⟩

/-- A loop that has just begun is the only one that is not over: its caller came past the check that
no reader is started. -/
theorem Sound.spawned (sound : machinery.Sound) {waits : Bool}
    (starting : machinery.caller = .starting waits) :
    (machinery.spawned (if waits then .confirming else .idle)).Sound := by
  rcases sound.of_starting starting with ⟨unheld, unasked⟩
  constructor
  case others =>
    intro place stage found apart
    have before : place < machinery.loops.length := by
      have inside := (List.getElem?_eq_some_iff.mp found).1
      have elsewhere : machinery.loops.length ≠ place := fun same => apart (congrArg some same)
      simp only [Machinery.spawned, List.length_append, List.length_singleton] at inside
      omega
    refine sound.others place stage ((List.getElem?_append_left before).symm.trans found) ?_
    rw [unheld]
    exact nofun
  case held =>
    intro place same
    cases same
    simp [Machinery.spawned]
  case running =>
    rw [stage_spawned]
    refine sound.running.trans ?_
    rw [stage, unheld]
    rfl
  case agreed =>
    cases waits with
    | false => exact unasked
    | true => exact unasked
  case started => exact iff_of_true (sound.started.mpr (.inr ⟨waits, starting⟩)) (.inl rfl)
  case kept =>
    intro reading holds
    rw [stage_spawned] at holds
    cases holds
  case conserved => exact sound.conserved

theorem Sound.join (sound : machinery.Sound) (ended : machinery.stage = some .ended) :
    Sound { machinery with
      handle := none
      caller := .idle
      milestones := machinery.milestones ++ [.stopped] } where
  others := by
    intro place stage found _
    by_cases held : machinery.handle = some place
    · rw [stage_of_handle held, found] at ended
      exact Option.some.inj ended
    · exact sound.others place stage found held
  held := nofun
  running := by
    rw [sound.running, ended]
    rfl
  agreed := True.intro
  started := by simp [IsStarted]
  kept := nofun
  conserved := sound.conserved

theorem Sound.move (sound : machinery.Sound) (move : Move) : (machinery.move move).Sound := by
  have change := change_move machinery move
  generalize machinery.move move = after at change
  cases change with
  | still => exact sound
  | started idle unheld =>
    refine sound.of_caller ?_ (iff_of_true List.getLast?_concat (.inr ⟨_, rfl⟩))
    rw [unheld]
    rfl
  | spawned starting => exact sound.spawned starting
  | settled confirming =>
    obtain ⟨held, agreed⟩ := sound.of_confirming confirming
    exact sound.of_caller agreed (iff_of_true (sound.started.mpr (.inl held)) (.inl held))
  | asked idle held =>
    refine sound.of_caller ?_ (iff_of_true (sound.started.mpr (.inl held)) (.inl held))
    obtain ⟨place, held⟩ := Option.isSome_iff_exists.mp held
    rw [held]
    rfl
  | joined joining ended => exact sound.join ended
  | looked accepts =>
    exact {
      others := sound.others
      held := sound.held
      running := sound.running
      agreed := sound.agreed
      started := sound.started
      kept := sound.kept
      conserved := by
        rw [List.append_assoc, passed_append_takeFirst]
        exact sound.conserved }
  | turned place reading => exact sound.turn place reading

theorem Sound.run (sound : machinery.Sound) (moves : List Move) : (machinery.run moves).Sound := by
  induction moves generalizing machinery with
  | nil => exact sound
  | cons move moves ih => exact ih (sound.move move)

end Machinery

end ThreadLab.Reader
