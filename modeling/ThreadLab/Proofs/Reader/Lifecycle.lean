import ThreadLab.Proofs.Reader.Shown

namespace ThreadLab.Reader

namespace Machinery

variable {machinery before between after : Machinery}

def Alive (machinery : Machinery) (place : Nat) : Prop :=
  ∃ stage, machinery.loops[place]? = some stage ∧ stage ≠ .ended

structure Later (before after : Machinery) : Prop where
  arrived : before.arrived <+: after.arrived
  removed : before.removed <+: after.removed
  milestones : before.milestones <+: after.milestones

theorem Later.refl (machinery : Machinery) : machinery.Later machinery where
  arrived := List.prefix_rfl
  removed := List.prefix_rfl
  milestones := List.prefix_rfl

theorem Later.trans (first : before.Later between) (second : between.Later after) :
    before.Later after where
  arrived := first.arrived.trans second.arrived
  removed := first.removed.trans second.removed
  milestones := first.milestones.trans second.milestones

theorem later_proceed (machinery : Machinery) (place : Nat) (reading : Option Reading) (stage : Stage) :
    machinery.Later (machinery.proceed place reading stage) := by
  cases stage with
  | begun | checking | closing | ended =>
    exact ⟨List.prefix_rfl, List.prefix_rfl, List.prefix_rfl⟩
  | atDescriptor => cases reading <;> exact ⟨List.prefix_rfl, List.prefix_rfl, List.prefix_rfl⟩
  | holding reading => exact ⟨List.prefix_append _ _, List.prefix_rfl, List.prefix_rfl⟩

theorem later_move (machinery : Machinery) (move : Move) : machinery.Later (machinery.move move) := by
  have change := change_move machinery move
  generalize machinery.move move = after at change
  cases change with
  | still | spawned | settled | asked => exact ⟨List.prefix_rfl, List.prefix_rfl, List.prefix_rfl⟩
  | started | joined => exact ⟨List.prefix_rfl, List.prefix_rfl, List.prefix_append _ _⟩
  | looked accepts => exact ⟨List.prefix_rfl, List.prefix_append _ _, List.prefix_rfl⟩
  | turned place reading =>
    unfold turn
    split
    · apply later_proceed
    · exact .refl machinery

theorem later_run (machinery : Machinery) (moves : List Move) :
    machinery.Later (machinery.run moves) := by
  induction moves generalizing machinery with
  | nil => exact .refl machinery
  | cons move moves ih => exact (later_move machinery move).trans (ih (machinery.move move))

theorem Sound.queued (sound : before.Sound) (sound_after : after.Sound) (later : before.Later after) :
    ∃ appended taken, after.arrived = before.arrived ++ appended ∧
      after.removed = before.removed ++ taken ∧ before.buffer ++ appended = taken ++ after.buffer := by
  rcases later.arrived with ⟨appended, arrived⟩
  rcases later.removed with ⟨taken, removed⟩
  refine ⟨appended, taken, arrived.symm, removed.symm, ?_⟩
  have both : before.removed ++ (before.buffer ++ appended) =
      before.removed ++ (taken ++ after.buffer) := by
    calc before.removed ++ (before.buffer ++ appended) = before.arrived ++ appended := by
          rw [sound.conserved, List.append_assoc]
      _ = after.removed ++ after.buffer := by rw [arrived, sound_after.conserved]
      _ = before.removed ++ (taken ++ after.buffer) := by rw [← removed, List.append_assoc]
  exact List.append_cancel_left both

/-- No loop is alive, and none is about to begin. -/
structure Quiet (machinery : Machinery) : Prop where
  ended : ∀ place, ¬ machinery.Alive place
  unrequested : ∀ waits, machinery.caller ≠ .starting waits

def starts (machinery : Machinery) : Nat :=
  machinery.milestones.count .started

theorem Later.starts_le (later : before.Later after) : before.starts ≤ after.starts :=
  later.milestones.sublist.count_le Milestone.started

theorem Quiet.turn (quiet : machinery.Quiet) (place : Nat) (reading : Option Reading) :
    machinery.turn place reading = machinery := by
  apply turn_of_ended
  intro stage found
  by_contra alive
  exact quiet.ended place ⟨stage, found, alive⟩

theorem Quiet.move (quiet : machinery.Quiet) {move : Move}
    (unstarted : (machinery.move move).starts = machinery.starts) :
    (machinery.move move).Quiet ∧ (machinery.move move).arrived = machinery.arrived := by
  have change := change_move machinery move
  generalize machinery.move move = after at change unstarted
  cases change with
  | still => exact ⟨quiet, rfl⟩
  | started idle unheld => simp [starts, requested] at unstarted
  | spawned starting => exact absurd starting (quiet.unrequested _)
  | settled | asked | joined => exact ⟨⟨quiet.ended, nofun⟩, rfl⟩
  | looked accepts => exact ⟨⟨quiet.ended, quiet.unrequested⟩, rfl⟩
  | turned place reading =>
    rw [quiet.turn]
    exact ⟨quiet, rfl⟩

theorem Quiet.run (quiet : machinery.Quiet) {moves : List Move}
    (unstarted : (machinery.run moves).starts = machinery.starts) :
    (machinery.run moves).Quiet ∧ (machinery.run moves).arrived = machinery.arrived := by
  induction moves generalizing machinery with
  | nil => exact ⟨quiet, rfl⟩
  | cons move moves ih =>
    have first := (later_move machinery move).starts_le
    have rest := (later_run (machinery.move move) moves).starts_le
    have whole : ((machinery.move move).run moves).starts = machinery.starts := unstarted
    rcases quiet.move (show (machinery.move move).starts = machinery.starts by omega) with
      ⟨quiet, same⟩
    rcases ih quiet (by omega) with ⟨quiet, arrived⟩
    exact ⟨quiet, arrived.trans same⟩

theorem Sound.of_unstarted (sound : machinery.Sound) (unstarted : ¬ machinery.IsStarted) :
    machinery.caller = .idle ∧ machinery.handle = none := by
  rw [sound.started, not_or] at unstarted
  rcases unstarted with ⟨unheld, unrequested⟩
  have agreed := sound.agreed
  rw [Option.not_isSome_iff_eq_none] at unheld
  rw [unheld] at agreed
  cases caller : machinery.caller with
  | idle => exact ⟨rfl, unheld⟩
  | starting waits => exact absurd ⟨waits, caller⟩ unrequested
  | confirming | joining =>
    rw [caller] at agreed
    exact agreed.elim

theorem Sound.alive_unique (sound : machinery.Sound) {first second : Nat}
    (alive : machinery.Alive first) (other : machinery.Alive second) : first = second := by
  have held : ∀ place, machinery.Alive place → machinery.handle = some place := by
    rintro place ⟨stage, found, alive⟩
    by_contra apart
    exact alive (sound.others place stage found apart)
  have same := held first alive
  rw [held second other] at same
  exact (Option.some.inj same).symm

theorem Sound.quiet_of_unstarted (sound : machinery.Sound) (unstarted : ¬ machinery.IsStarted) :
    machinery.Quiet := by
  rcases sound.of_unstarted unstarted with ⟨idle, unheld⟩
  constructor
  case ended =>
    rintro place ⟨stage, found, alive⟩
    apply alive
    apply sound.others place stage found
    rw [unheld]
    exact nofun
  case unrequested =>
    rw [idle]
    exact nofun

theorem Sound.running_of_quiet (sound : machinery.Sound) (quiet : machinery.Quiet) :
    machinery.running = false := by
  rw [sound.running]
  cases held : machinery.handle with
  | none => simp [stage, held]
  | some place =>
    rcases sound.exists_stage held with ⟨stage, stands⟩
    have ended : stage = .ended := by
      by_contra alive
      rw [stage_of_handle held] at stands
      exact quiet.ended place ⟨stage, stands, alive⟩
    rw [stands, ended]
    rfl

theorem removed_move {move : Move} (unlooked : ∀ accepts, move ≠ .look accepts) :
    (machinery.move move).removed = machinery.removed := by
  have change := change_move machinery move
  generalize machinery.move move = after at change
  cases change with
  | still | started | spawned | settled | asked | joined => rfl
  | looked accepts => exact absurd rfl (unlooked accepts)
  | turned place reading =>
    unfold turn
    split
    · rename_i stage _
      cases stage <;> cases reading <;> rfl
    · rfl

theorem removed_run {moves : List Move} (unlooked : ∀ accepts, .look accepts ∉ moves) :
    (machinery.run moves).removed = machinery.removed := by
  induction moves generalizing machinery with
  | nil => rfl
  | cons move moves ih =>
    simp only [List.mem_cons, not_or] at unlooked
    have first := @removed_move machinery move fun accepts same => (unlooked accepts).1 same.symm
    exact (ih fun accepts => (unlooked accepts).2).trans first

theorem steps_read (buffer : List Bytes) {readings : List Reading}
    (bytes : ∀ reading ∈ readings, machinery.received reading ≠ []) :
    Relation.ReflTransGen Step ⟨machinery.descriptor, machinery.mtu, .reading, buffer⟩
      ⟨machinery.descriptor, machinery.mtu, .reading,
        buffer ++ readings.map machinery.received⟩ := by
  induction readings generalizing buffer with
  | nil => simpa using Relation.ReflTransGen.refl
  | cons reading readings ih =>
    rw [List.forall_mem_cons] at bytes
    have rest := ih (buffer ++ [machinery.received reading]) bytes.2
    rw [List.append_assoc] at rest
    refine .head ?_ rest
    exact read_of_bytes bytes.1 .reading buffer ▸ Step.read rfl reading

theorem Sound.restarted (sound : machinery.Sound) (unstarted : ¬ machinery.IsStarted)
    {readings : List Reading} (bytes : ∀ reading ∈ readings, machinery.received reading ≠ []) :
    ∃ moves, (machinery.run moves).reader = { machinery.reader with
      phase := .reading
      buffer := machinery.buffer ++ readings.map machinery.received } := by
  rcases sound.of_unstarted unstarted with ⟨idle, unheld⟩
  have rest : machinery.AtRest := by
    refine ⟨sound, idle, ?_⟩
    simp [stage, unheld]
  have steps : Relation.ReflTransGen Step machinery.reader ⟨machinery.descriptor, machinery.mtu,
      .reading, machinery.buffer ++ readings.map machinery.received⟩ := by
    rw [reader_of_unheld unheld]
    apply Relation.ReflTransGen.head (.start rfl)
    apply Relation.ReflTransGen.head (.enter _)
    exact steps_read machinery.buffer bytes
  rcases rest.steps steps with ⟨moves, -, same⟩
  exact ⟨moves, same⟩

structure Kept (before after : Machinery) : Prop where
  running : after.running = false
  arrived : after.arrived = before.arrived
  taken : ∃ taken, after.removed = before.removed ++ taken ∧ before.buffer = taken ++ after.buffer

theorem Sound.kept_of_quiet (sound : machinery.Sound) (quiet : machinery.Quiet) {moves : List Move}
    (unstarted : (machinery.run moves).starts = machinery.starts) :
    machinery.Kept (machinery.run moves) := by
  have sound_after := sound.run moves
  rcases quiet.run unstarted with ⟨quiet, same⟩
  rcases sound.queued sound_after (later_run machinery moves) with
    ⟨appended, taken, arrived, removed, buffers⟩
  have none : appended = [] := by
    rw [same] at arrived
    exact List.self_eq_append_right.mp arrived
  rw [none, List.append_nil] at buffers
  exact ⟨sound_after.running_of_quiet quiet, same, taken, removed, buffers⟩

theorem Kept.untouched (kept : before.Kept after) (removed : after.removed = before.removed) :
    after.buffer = before.buffer := by
  rcases kept.taken with ⟨taken, added, buffers⟩
  rw [removed] at added
  rw [List.self_eq_append_right.mp added] at buffers
  exact buffers.symm

/-- What is promised to the one caller that starts and stops a reader. -/
structure Lifecycle (machinery : Machinery) : Prop where
  single : ∀ first second, machinery.Alive first → machinery.Alive second → first = second
  running : machinery.running = machinery.reader.isRunning
  shown : ∀ move, Relation.ReflGen Step machinery.reader (machinery.move move).reader
  alike : ∀ waits fault,
    machinery.request waits = .error fault ↔ machinery.reader.start = .error fault
  refused : machinery.caller = .idle → ∀ waits,
    machinery.request waits = .error (.readerStarted machinery.descriptor) ↔ machinery.IsStarted
  unchanged : ∀ waits fault, machinery.request waits = .error fault →
    machinery.move (.start waits) = machinery
  granted : ¬ machinery.IsStarted → ∀ waits,
    machinery.request waits = .ok (machinery.requested waits) ∧
      machinery.move (.start waits) = machinery.requested waits
  unstopped : ¬ machinery.IsStarted →
    machinery.move .stop = machinery ∧ machinery.reader.stop = machinery.reader
  quiet : ¬ machinery.IsStarted → machinery.running = false ∧ machinery.Quiet
  kept : machinery.Quiet → ∀ moves, (machinery.run moves).starts = machinery.starts →
    machinery.Kept (machinery.run moves) ∧
      ((∀ accepts, .look accepts ∉ moves) → (machinery.run moves).buffer = machinery.buffer)
  queued : ∀ moves, ∃ appended taken, (machinery.run moves).arrived = machinery.arrived ++ appended ∧
    (machinery.run moves).removed = machinery.removed ++ taken ∧
    machinery.buffer ++ appended = taken ++ (machinery.run moves).buffer
  restarted : ¬ machinery.IsStarted → ∀ readings : List Reading,
    (∀ reading ∈ readings, machinery.received reading ≠ []) →
    ∃ moves, (machinery.run moves).reader = { machinery.reader with
      phase := .reading
      buffer := machinery.buffer ++ readings.map machinery.received }

theorem Sound.lifecycle (sound : machinery.Sound) : machinery.Lifecycle := by
  constructor
  case single => exact fun first second => sound.alive_unique
  case running => exact sound.running_eq
  case shown => exact sound.shows_move
  case alike => exact sound.request_eq_error
  case refused =>
    intro idle waits
    have unrequested : ¬ ∃ waits, machinery.caller = .starting waits := by simp [idle]
    rw [sound.started, or_iff_left unrequested]
    cases held : machinery.handle <;> simp [request, held]
  case unchanged =>
    intro waits fault refused
    rw [Machinery.move, refused]
    cases machinery.caller <;> rfl
  case granted =>
    intro unstarted waits
    rcases sound.of_unstarted unstarted with ⟨idle, unheld⟩
    exact ⟨request_eq_ok.mpr ⟨unheld, rfl⟩, move_start idle unheld waits⟩
  case unstopped =>
    intro unstarted
    rcases sound.of_unstarted unstarted with ⟨idle, unheld⟩
    rw [reader_of_unheld unheld]
    simp [Machinery.move, unheld, Reader.stop]
  case quiet =>
    intro unstarted
    have quiet := sound.quiet_of_unstarted unstarted
    exact ⟨sound.running_of_quiet quiet, quiet⟩
  case kept =>
    intro quiet moves unstarted
    have kept := sound.kept_of_quiet quiet unstarted
    exact ⟨kept, fun unlooked => kept.untouched (removed_run unlooked)⟩
  case queued =>
    intro moves
    exact sound.queued (sound.run moves) (later_run machinery moves)
  case restarted => exact fun unstarted readings => sound.restarted unstarted

end Machinery

/-- Whatever starts, stops, searches and steps of loops come after each other: the parts of the reader
keep what is promised of them, and show exactly the readers that its operations lead to. -/
theorem run_lifecycle :
    (∀ (descriptor mtu : Int) (moves : List Machinery.Move),
      ((Machinery.opening descriptor mtu).run moves).Lifecycle) ∧
    ∀ (descriptor mtu : Int) (reader : Reader),
      Relation.ReflTransGen Step { descriptor, mtu } reader ↔
        ∃ moves, ((Machinery.opening descriptor mtu).run moves).reader = reader :=
  ⟨fun descriptor mtu moves => ((Machinery.sound_opening descriptor mtu).run moves).lifecycle,
    Machinery.steps_iff⟩

def brokenMoves : List Machinery.Move :=
  [.start true, .spawn, .turn 0 none, .settle, .turn 0 none, .turn 0 (some (.frame [1, 2, 3])),
    .turn 0 none, .turn 0 none, .turn 0 (some .failure), .turn 0 none]

theorem run_lifecycle_broken :
    let broken := (Machinery.opening 7 2).run brokenMoves
    let stopped := (Machinery.opening 7 2).run (brokenMoves ++ [.stop, .join])
    broken.running = false ∧ broken.buffer = [[1, 2]] ∧
      broken.request true = .error (.readerStarted 7) ∧ broken.move (.start true) = broken ∧
      stopped.Kept (stopped.run [.stop, .turn 0 none, .look fun _ => .ok true]) ∧
      ∃ moves, (stopped.run moves).reader = ⟨7, 2, .reading, [[1, 2], [4]]⟩ := by
  have broken := run_lifecycle.1 7 2 brokenMoves
  have stopped := run_lifecycle.1 7 2 (brokenMoves ++ [.stop, .join])
  have refused := (broken.refused rfl true).mpr rfl
  have unstarted : ¬ ((Machinery.opening 7 2).run (brokenMoves ++ [.stop, .join])).IsStarted := by
    exact nofun
  refine ⟨rfl, rfl, refused, broken.unchanged true _ refused, ?_, ?_⟩
  · exact (stopped.kept (stopped.quiet unstarted).2
      [.stop, .turn 0 none, .look fun _ => .ok true] rfl).1
  · have bytes : ∀ reading ∈ [Reading.frame [4]],
        ((Machinery.opening 7 2).run (brokenMoves ++ [.stop, .join])).received reading ≠ [] := by
      intro reading member
      rw [List.mem_singleton.mp member]
      exact nofun
    exact stopped.restarted unstarted [.frame [4]] bytes

end ThreadLab.Reader
