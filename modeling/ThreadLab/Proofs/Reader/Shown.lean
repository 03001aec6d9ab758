import Mathlib.Logic.Relation
import ThreadLab.Proofs.Reader.Machinery

namespace ThreadLab.Reader

inductive Step : Reader → Reader → Prop
  | start {reader started : Reader} (granted : reader.start = .ok started) : Step reader started
  | enter (reader : Reader) : Step reader reader.enter
  | read {reader : Reader} (running : reader.isRunning) (reading : Reading) :
    Step reader (reader.read reading)
  | stop (reader : Reader) : Step reader reader.stop
  | look (reader : Reader) (accepts : Bytes → Except Fault Bool) :
    Step reader { reader with buffer := (takeFirst accepts reader.buffer).2 }

def Stage.phase : Stage → Phase
  | .begun => .starting
  | .ended => .ended
  | _ => .reading

namespace Machinery

/-- The reader that the parts make up. -/
def reader (machinery : Machinery) : Reader where
  descriptor := machinery.descriptor
  mtu := machinery.mtu
  phase := (machinery.stage.map Stage.phase).getD .stopped
  buffer := machinery.buffer

variable {machinery : Machinery} {place : Nat}

theorem run_append (machinery : Machinery) (first second : List Move) :
    machinery.run (first ++ second) = (machinery.run first).run second :=
  List.foldl_append

theorem reader_of_stage {stage : Stage} (stands : machinery.stage = some stage) :
    machinery.reader = ⟨machinery.descriptor, machinery.mtu, stage.phase, machinery.buffer⟩ := by
  rw [reader, stands]
  rfl

theorem reader_of_unheld (unheld : machinery.handle = none) :
    machinery.reader = ⟨machinery.descriptor, machinery.mtu, .stopped, machinery.buffer⟩ := by
  rw [reader, stage, unheld]
  rfl

theorem Sound.phase_eq_stopped (sound : machinery.Sound) :
    machinery.reader.phase = .stopped ↔ machinery.handle = none := by
  cases held : machinery.handle with
  | none => simp [reader_of_unheld held]
  | some place =>
    rcases sound.exists_stage held with ⟨stage, stands⟩
    cases stage <;> simp [reader_of_stage stands, Stage.phase]

theorem Sound.running_eq (sound : machinery.Sound) :
    machinery.running = machinery.reader.isRunning := by
  rw [sound.running, isRunning, reader]
  cases machinery.stage with
  | none => rfl
  | some stage => cases stage <;> rfl

theorem Sound.request_eq_error (sound : machinery.Sound) (waits : Bool) (fault : Fault) :
    machinery.request waits = .error fault ↔ machinery.reader.start = .error fault := by
  cases held : machinery.handle with
  | none => simp [request, held, reader_of_unheld held, start]
  | some place =>
    rcases sound.exists_stage held with ⟨stage, stands⟩
    cases stage <;> simp [request, held, reader_of_stage stands, Stage.phase, start]

theorem Sound.shows_advance (sound : machinery.Sound) (held : machinery.handle = some place)
    {stage next : Stage} (stands : machinery.stage = some stage) {running : Bool}
    {buffer arrived : List Bytes}
    (step : Relation.ReflGen Step ⟨machinery.descriptor, machinery.mtu, stage.phase, machinery.buffer⟩
      ⟨machinery.descriptor, machinery.mtu, next.phase, buffer⟩) :
    Relation.ReflGen Step machinery.reader
      ({ machinery with running, buffer, arrived }.advance place next).reader := by
  have after : ({ machinery with running, buffer, arrived }.advance place next).stage = some next :=
    stage_advance held (sound.held place held) next
  rw [reader_of_stage stands, reader_of_stage after]
  exact step

theorem read_of_bytes {reading : Reading} (bytes : machinery.received reading ≠ []) (phase : Phase)
    (buffer : List Bytes) :
    Reader.read ⟨machinery.descriptor, machinery.mtu, phase, buffer⟩ reading =
      ⟨machinery.descriptor, machinery.mtu, phase, buffer ++ [machinery.received reading]⟩ := by
  unfold Reader.read
  split
  · contradiction
  · rfl

theorem read_of_end {reading : Reading} (empty : machinery.received reading = []) (phase : Phase)
    (buffer : List Bytes) :
    Reader.read ⟨machinery.descriptor, machinery.mtu, phase, buffer⟩ reading =
      ⟨machinery.descriptor, machinery.mtu, .ended, buffer⟩ := by
  unfold Reader.read
  split
  · rfl
  · contradiction

theorem Sound.shows_turn (sound : machinery.Sound) (held : machinery.handle = some place)
    (reading : Option Reading) :
    Relation.ReflGen Step machinery.reader (machinery.turn place reading).reader := by
  rcases sound.exists_stage held with ⟨stage, stands⟩
  rw [turn_of_stage held stands]
  cases stage with
  | begun => exact sound.shows_advance held stands (.single (.enter _))
  | checking =>
    unfold proceed
    dsimp only
    split
    · exact sound.shows_advance held stands .refl
    · exact sound.shows_advance held stands .refl
  | atDescriptor =>
    cases reading with
    | none => exact sound.shows_advance held stands .refl
    | some reading =>
      unfold proceed
      dsimp only
      split
      · exact sound.shows_advance held stands .refl
      · exact sound.shows_advance held stands .refl
  | holding reading =>
    refine sound.shows_advance held stands (.single ?_)
    exact read_of_bytes (sound.kept reading stands) .reading _ ▸ Step.read rfl reading
  | closing => exact sound.shows_advance held stands (.single (.read rfl .failure))
  | ended => exact .refl

theorem Sound.shows_move (sound : machinery.Sound) (move : Move) :
    Relation.ReflGen Step machinery.reader (machinery.move move).reader := by
  have change := change_move machinery move
  generalize machinery.move move = after at change
  cases change with
  | still | started | settled | asked => exact .refl
  | spawned starting =>
    rcases sound.of_starting starting with ⟨unheld, -⟩
    refine .single (.start ?_)
    rw [reader_of_unheld unheld, reader_of_stage (stage_spawned machinery _)]
    rfl
  | joined joining ended => exact .single (.stop machinery.reader)
  | looked accepts => exact .single (.look machinery.reader accepts)
  | turned place reading =>
    by_cases held : machinery.handle = some place
    · exact sound.shows_turn held reading
    · rw [sound.turn_of_other held]

theorem Sound.shows_run (sound : machinery.Sound) (moves : List Move) :
    Relation.ReflTransGen Step machinery.reader (machinery.run moves).reader := by
  induction moves generalizing machinery with
  | nil => exact .refl
  | cons move moves ih =>
    exact (sound.shows_move move).to_reflTransGen.trans (ih (sound.move move))

/-- Between two calls, with a loop that has nothing in hand. -/
structure AtRest (machinery : Machinery) : Prop where
  sound : machinery.Sound
  idle : machinery.caller = .idle
  stands : ∀ stage, machinery.stage = some stage →
    stage = .begun ∨ stage = .checking ∨ stage = .ended

theorem atRest_opening (descriptor mtu : Int) : (opening descriptor mtu).AtRest where
  sound := sound_opening descriptor mtu
  idle := rfl
  stands := nofun

def Reaches (machinery : Machinery) (after : Reader) : Prop :=
  ∃ moves, (machinery.run moves).AtRest ∧ (machinery.run moves).reader = after

theorem Sound.unasked (sound : machinery.Sound) (idle : machinery.caller = .idle)
    (held : machinery.handle = some place) : machinery.stopping = false := by
  have agreed := sound.agreed
  rw [idle, held] at agreed
  exact agreed

theorem move_start (idle : machinery.caller = .idle) (unheld : machinery.handle = none) (waits : Bool) :
    machinery.move (.start waits) = machinery.requested waits := by
  rw [Machinery.move, idle, request_eq_ok.mpr ⟨unheld, rfl⟩]

theorem AtRest.start (rest : machinery.AtRest) {started : Reader}
    (granted : machinery.reader.start = .ok started) :
    machinery.Reaches started := by
  have unheld : machinery.handle = none := by
    apply rest.sound.phase_eq_stopped.mp
    rw [Reader.start] at granted
    split at granted
    · assumption
    · cases granted
  have after : machinery.run [.start false, .spawn] =
      (machinery.requested false).spawned .idle := by
    show (machinery.move (.start false)).move .spawn = _
    rw [move_start rest.idle unheld]
    rfl
  have sound := rest.sound.run [.start false, .spawn]
  refine ⟨[.start false, .spawn], ?_, ?_⟩
  · rw [after] at sound ⊢
    refine ⟨sound, rfl, ?_⟩
    intro stage stands
    rw [stage_spawned] at stands
    cases stands
    exact .inl rfl
  · rw [after, reader_of_stage (stage_spawned _ _)]
    rw [reader_of_unheld unheld] at granted
    exact Except.ok.inj granted

theorem AtRest.of_stage (sound : machinery.Sound) (idle : machinery.caller = .idle) {stage : Stage}
    (stands : machinery.stage = some stage)
    (known : stage = .begun ∨ stage = .checking ∨ stage = .ended) : machinery.AtRest where
  sound := sound
  idle := idle
  stands := by
    intro other same
    rw [stands] at same
    cases same
    exact known

theorem Sound.turn_of_begun (sound : machinery.Sound) (held : machinery.handle = some place)
    (stands : machinery.stage = some .begun) :
    machinery.turn place none = { machinery with running := true }.advance place .checking ∧
      ({ machinery with running := true }.advance place .checking).stage = some .checking :=
  ⟨turn_of_stage held stands none, stage_advance held (sound.held place held) .checking⟩

theorem AtRest.enter (rest : machinery.AtRest) : machinery.Reaches machinery.reader.enter := by
  by_cases starting : machinery.reader.phase = .starting
  case neg =>
    refine ⟨[], rest, ?_⟩
    rw [Reader.enter]
    split
    · contradiction
    · rfl
  cases stands : machinery.stage with
  | none => simp [reader, stands] at starting
  | some stage =>
    rcases exists_handle_of_stage stands with ⟨place, held⟩
    rcases rest.stands stage stands with rfl | rfl | rfl
    case inl =>
      rcases rest.sound.turn_of_begun held stands with ⟨after, checking⟩
      have sound := rest.sound.turn place none
      refine ⟨[.turn place none], ?_, ?_⟩
      · show (machinery.turn place none).AtRest
        rw [after] at sound ⊢
        exact .of_stage sound rest.idle checking (.inr (.inl rfl))
      · show (machinery.turn place none).reader = machinery.reader.enter
        rw [after, reader_of_stage checking, reader_of_stage stands]
        rfl
    all_goals simp [reader, stands, Stage.phase] at starting

theorem turn_advance (held : machinery.handle = some place)
    (inside : place < machinery.loops.length) (stage : Stage) (reading : Option Reading) :
    (machinery.advance place stage).turn place reading =
      (machinery.advance place stage).proceed place reading stage := by
  have same : (machinery.advance place stage).handle = some place := held
  exact turn_of_stage same (stage_advance held inside stage) reading

def round (place : Nat) (reading : Reading) : List Move :=
  [.turn place none, .turn place (some reading), .turn place none]

theorem Sound.run_round (sound : machinery.Sound) (held : machinery.handle = some place)
    (stands : machinery.stage = some .checking) (unasked : machinery.stopping = false)
    (reading : Reading) :
    machinery.run (round place reading) =
      if machinery.received reading = [] then { machinery with running := false }.advance place .ended
      else { machinery with
        buffer := machinery.buffer ++ [machinery.received reading]
        arrived := machinery.arrived ++ [machinery.received reading] }.advance place .checking := by
  have inside := sound.held place held
  have first : machinery.turn place none = machinery.advance place .atDescriptor := by
    rw [turn_of_stage held stands, proceed, unasked]
    rfl
  have second : (machinery.advance place .atDescriptor).turn place (some reading) =
      machinery.advance place
        (if machinery.received reading = [] then .closing else .holding reading) :=
    (turn_advance held inside .atDescriptor (some reading)).trans (advance_advance ..)
  show ((machinery.turn place none).turn place (some reading)).turn place none = _
  rw [first, second]
  split
  · rw [turn_advance held inside]
    simp [proceed, Machinery.advance]
  · rw [turn_advance held inside]
    simp [proceed, Machinery.advance, received]

theorem AtRest.read (rest : machinery.AtRest) (running : machinery.reader.isRunning)
    (reading : Reading) : machinery.Reaches (machinery.reader.read reading) := by
  cases stands : machinery.stage with
  | none => simp [reader, stands, isRunning] at running
  | some stage =>
    rcases exists_handle_of_stage stands with ⟨place, held⟩
    rcases rest.stands stage stands with rfl | rfl | rfl
    case inr.inl =>
      have inside := rest.sound.held place held
      have after := rest.sound.run_round held stands (rest.sound.unasked rest.idle held) reading
      have sound := rest.sound.run (round place reading)
      refine ⟨round place reading, ?_⟩
      rw [after] at sound ⊢
      rw [reader_of_stage stands]
      by_cases empty : machinery.received reading = []
      · rw [if_pos empty] at sound ⊢
        have ended : ({ machinery with running := false }.advance place .ended).stage = some .ended :=
          stage_advance held inside .ended
        refine ⟨.of_stage sound rest.idle ended (.inr (.inr rfl)), ?_⟩
        rw [reader_of_stage ended]
        exact (read_of_end empty _ _).symm
      · rw [if_neg empty] at sound ⊢
        have checking : ({ machinery with
            buffer := machinery.buffer ++ [machinery.received reading]
            arrived := machinery.arrived ++ [machinery.received reading] }.advance place
              .checking).stage = some .checking := stage_advance held inside .checking
        refine ⟨.of_stage sound rest.idle checking (.inr (.inl rfl)), ?_⟩
        rw [reader_of_stage checking]
        exact (read_of_bytes empty _ _).symm
    all_goals simp [reader, stands, Stage.phase, isRunning] at running

theorem Sound.run_asked (sound : machinery.Sound) (held : machinery.handle = some place)
    (asked : machinery.stopping = true) (stands : machinery.stage = some .checking) :
    machinery.run [.turn place none, .turn place none] =
      { machinery with running := false }.advance place .ended := by
  have inside := sound.held place held
  have first : machinery.turn place none = machinery.advance place .closing := by
    rw [turn_of_stage held stands, proceed, asked]
    rfl
  show (machinery.turn place none).turn place none = _
  rw [first, turn_advance held inside]
  simp [proceed, Machinery.advance]

/-- A loop that is asked to stop has at most three steps left. -/
theorem Sound.exists_run_asked (sound : machinery.Sound) (held : machinery.handle = some place)
    (asked : machinery.stopping = true) {stage : Stage} (stands : machinery.stage = some stage)
    (known : stage = .begun ∨ stage = .checking ∨ stage = .ended) :
    ∃ moves, (machinery.run moves).caller = machinery.caller ∧
      (machinery.run moves).stage = some .ended ∧
      (machinery.run moves).reader.stop = machinery.reader.stop := by
  have inside := sound.held place held
  rcases known with rfl | rfl | rfl
  case inl =>
    rcases sound.turn_of_begun held stands with ⟨entered, checking⟩
    have sound := sound.turn place none
    rw [entered] at sound
    have ended := sound.run_asked held asked checking
    refine ⟨.turn place none :: [.turn place none, .turn place none], ?_⟩
    show ((machinery.turn place none).run _).caller = _ ∧ ((machinery.turn place none).run _).stage = _ ∧
      ((machinery.turn place none).run _).reader.stop = _
    rw [entered, ended]
    refine ⟨rfl, stage_advance ?_ ?_ .ended, rfl⟩
    · exact held
    · exact Nat.lt_of_lt_of_eq inside List.length_set.symm
  case inr.inl =>
    refine ⟨[.turn place none, .turn place none], ?_⟩
    rw [sound.run_asked held asked stands]
    exact ⟨rfl, stage_advance held inside .ended, rfl⟩
  case inr.inr => exact ⟨[], rfl, stands, rfl⟩

theorem move_join (joining : machinery.caller = .joining) (ended : machinery.stage = some .ended) :
    (machinery.move .join).handle = none ∧ (machinery.move .join).caller = .idle ∧
      (machinery.move .join).reader = machinery.reader.stop := by
  rw [Machinery.move, if_pos ⟨joining, ended⟩]
  exact ⟨rfl, rfl, rfl⟩

theorem AtRest.stop (rest : machinery.AtRest) : machinery.Reaches machinery.reader.stop := by
  cases stands : machinery.stage with
  | none =>
    refine ⟨[], rest, ?_⟩
    show machinery.reader = { machinery.reader with phase := .stopped }
    simp [reader, stands]
  | some stage =>
    rcases exists_handle_of_stage stands with ⟨place, held⟩
    have asked : machinery.move .stop = { machinery with stopping := true, caller := .joining } := by
      simp [Machinery.move, rest.idle, held]
    have sound := rest.sound.move .stop
    rw [asked] at sound
    rcases sound.exists_run_asked held rfl stands (rest.stands stage stands) with
      ⟨moves, joining, ended, same⟩
    have after : machinery.run (.stop :: (moves ++ [.join])) =
        ({ machinery with stopping := true, caller := .joining }.run moves).move .join := by
      show (machinery.move .stop).run (moves ++ [.join]) = _
      rw [asked, run_append]
      rfl
    rcases move_join joining ended with ⟨unheld, idle, stopped⟩
    have sound := (sound.run moves).move .join
    refine ⟨.stop :: (moves ++ [.join]), ?_⟩
    rw [after]
    refine ⟨⟨sound, idle, ?_⟩, stopped.trans same⟩
    intro stage stands
    simp [Machinery.stage, unheld] at stands

theorem AtRest.look (rest : machinery.AtRest) (accepts : Bytes → Except Fault Bool) :
    (machinery.move (.look accepts)).AtRest where
  sound := rest.sound.move (.look accepts)
  idle := rest.idle
  stands := rest.stands

theorem AtRest.step (rest : machinery.AtRest) {after : Reader} (step : Step machinery.reader after) :
    machinery.Reaches after := by
  cases step with
  | start granted => exact rest.start granted
  | enter => exact rest.enter
  | read running reading => exact rest.read running reading
  | stop => exact rest.stop
  | look accepts => exact ⟨[.look accepts], rest.look accepts, rfl⟩

theorem AtRest.steps (rest : machinery.AtRest) {after : Reader}
    (steps : Relation.ReflTransGen Step machinery.reader after) : machinery.Reaches after := by
  induction steps with
  | refl => exact ⟨[], rest, rfl⟩
  | tail _ step ih =>
    rcases ih with ⟨first, rest, same⟩
    rw [← same] at step
    rcases rest.step step with ⟨second, rest, same⟩
    rw [← run_append] at rest same
    exact ⟨first ++ second, rest, same⟩

theorem steps_iff (descriptor mtu : Int) (after : Reader) :
    Relation.ReflTransGen Step { descriptor, mtu } after ↔
      ∃ moves, ((opening descriptor mtu).run moves).reader = after := by
  constructor
  · intro steps
    rcases (atRest_opening descriptor mtu).steps steps with ⟨moves, -, same⟩
    exact ⟨moves, same⟩
  · rintro ⟨moves, rfl⟩
    exact (sound_opening descriptor mtu).shows_run moves

end Machinery

end ThreadLab.Reader
