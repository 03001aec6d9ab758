import ThreadLab.Proofs.FirstMatch
import ThreadLab.Proofs.Reader.Scene

namespace ThreadLab.Reader

theorem firstMatch_takeFirst (accepts : Bytes → Except Fault Bool) (frames : List Bytes) :
    FirstMatch accepts frames (passed accepts frames) (takeFirst accepts frames).1
      (takeFirst accepts frames).2 := by
  induction frames with
  | nil => exact .absent (by simp)
  | cons frame frames ih =>
    rw [passed, takeFirst]
    rcases answer : accepts frame with fault | _ | _
    · exact .failed_head answer frames
    · exact ih.cons answer
    · exact .found_head answer frames

/-- How a search goes on that has looked: it ends, is told that the clock takes no wait until its
deadline, or waits. -/
inductive Answers (clock : Clock) (deadline now : Int) :
    Except Fault (Option Bytes) → Option (Except Fault (Option Bytes)) → Prop
  | ended {found : Except Fault (Option Bytes)} (late : found = .ok none → deadline ≤ now) :
    Answers clock deadline now found (some found)
  | refused (early : now < deadline) (long : clock.refuses (deadline - now) = true) :
    Answers clock deadline now (.ok none) (some (.error (@Fault.longWait .system)))
  | waits (early : now < deadline) (short : clock.refuses (deadline - now) = false) :
    Answers clock deadline now (.ok none) none

theorem answers_answer (clock : Clock) (deadline now : Int) (found : Except Fault (Option Bytes)) :
    Answers clock deadline now found (answer clock deadline now found) := by
  rcases found with fault | _ | frame
  · exact .ended nofun
  · unfold answer
    dsimp only
    split
    · exact .ended fun _ => ‹_›
    · rename_i early
      split
      · exact .refused (Int.not_le.mp early) ‹_›
      · exact .waits (Int.not_le.mp early) (Bool.eq_false_iff.mpr ‹_›)
  · exact .ended nofun

namespace Scene

/-- A scene some moves after `first`, in which one search is still waiting and no other has looked. -/
structure Awaits (first : Scene) (place : Nat) (accepts : Bytes → Except Fault Bool) (deadline : Int)
    (appended tested : List Bytes) (scene : Scene) : Prop where
  arrived : scene.arrived = first.arrived ++ appended
  removed : scene.removed = first.removed ++ tested.map (Removal.mk place)
  conserved : first.reader.buffer ++ appended = tested ++ scene.reader.buffer
  rejected : ∀ frame ∈ tested, accepts frame = .ok false
  waiting : scene.searches[place]? = some ⟨accepts, deadline, none⟩
  clock : scene.clock = first.clock

theorem awaits_search (scene : Scene) (accepts : Bytes → Except Fault Bool) (deadline : Int) :
    scene.Awaits scene.searches.length accepts deadline [] []
      (scene.move (.search accepts deadline)) where
  arrived := (List.append_nil _).symm
  removed := (List.append_nil _).symm
  conserved := List.append_nil _
  rejected := nofun
  waiting := List.getElem?_concat_length
  clock := rfl

theorem searches_move_of_ended {scene : Scene} {place : Nat} {search : Search}
    (found : scene.searches[place]? = some search) (ended : search.result ≠ none) (move : Move) :
    (scene.move move).searches[place]? = some search := by
  cases move with
  | read reading =>
    change (scene.read reading).searches[place]? = _
    unfold Scene.read
    split <;> exact found
  | start | enter | stop | pass => exact found
  | search accepts deadline =>
    have inside := (List.getElem?_eq_some_iff.mp found).1
    exact (List.getElem?_append_left inside).trans found
  | look other =>
    unfold Scene.move
    dsimp only
    split
    · rename_i accepts deadline waiting
      by_cases here : other = place
      · subst here
        cases found.symm.trans waiting
        exact absurd rfl ended
      · exact (List.getElem?_set_ne here).trans found
    · exact found

theorem searches_run_of_ended {scene : Scene} {place : Nat} {search : Search}
    (found : scene.searches[place]? = some search) (ended : search.result ≠ none)
    (moves : List Move) : (scene.run moves).searches[place]? = some search := by
  induction moves generalizing scene with
  | nil => exact found
  | cons move moves ih => exact ih (searches_move_of_ended found ended move)

variable {first scene : Scene} {place : Nat} {accepts : Bytes → Except Fault Bool} {deadline : Int}
  {appended tested : List Bytes}

theorem Awaits.of_reader (awaits : first.Awaits place accepts deadline appended tested scene)
    {reader : Reader} {now : Int} {frames : List Bytes}
    (buffer : reader.buffer = scene.reader.buffer ++ frames) :
    first.Awaits place accepts deadline (appended ++ frames) tested
      { scene with reader, now, arrived := scene.arrived ++ frames } where
  arrived := by
    rw [← List.append_assoc, ← awaits.arrived]
  removed := awaits.removed
  conserved := by
    rw [← List.append_assoc, awaits.conserved, List.append_assoc]
    exact congrArg (tested ++ ·) buffer.symm
  rejected := awaits.rejected
  waiting := awaits.waiting
  clock := awaits.clock

theorem Awaits.of_same_buffer (awaits : first.Awaits place accepts deadline appended tested scene)
    {reader : Reader} {now : Int} (buffer : reader.buffer = scene.reader.buffer) :
    first.Awaits place accepts deadline appended tested { scene with reader, now } := by
  have kept := @Awaits.of_reader _ _ _ _ _ _ _ awaits reader now [] (by rw [buffer, List.append_nil])
  rwa [List.append_nil, List.append_nil] at kept

theorem Awaits.look (awaits : first.Awaits place accepts deadline appended tested scene) :
    ∃ looked found answer,
      FirstMatch accepts (first.reader.buffer ++ appended) looked found
        (scene.move (.look place)).reader.buffer ∧
      (scene.move (.look place)).arrived = scene.arrived ∧
      (scene.move (.look place)).removed = first.removed ++ looked.map (Removal.mk place) ∧
      (scene.move (.look place)).searches[place]? = some ⟨accepts, deadline, answer⟩ ∧
      Answers first.clock deadline scene.now found answer := by
  have inside := (List.getElem?_eq_some_iff.mp awaits.waiting).1
  have moved : scene.move (.look place) = scene.look place ⟨accepts, deadline, none⟩ := by
    unfold Scene.move
    dsimp only
    rw [awaits.waiting]
  rw [moved]
  rw [← awaits.clock]
  refine ⟨tested ++ passed accepts scene.reader.buffer, (takeFirst accepts scene.reader.buffer).1,
    _, ?_, rfl, ?_, List.getElem?_set_self inside, answers_answer _ _ _ _⟩
  · rw [awaits.conserved]
    exact (firstMatch_takeFirst accepts scene.reader.buffer).behind awaits.rejected
  · show scene.removed ++ _ = _
    rw [awaits.removed, List.append_assoc, ← List.map_append]

theorem Awaits.move (awaits : first.Awaits place accepts deadline appended tested scene)
    {move : Move} (alone : ∀ other, move = .look other → other = place) :
    (∃ appended tested, first.Awaits place accepts deadline appended tested (scene.move move)) ∨
      ∃ search, (scene.move move).searches[place]? = some search ∧ search.result ≠ none := by
  cases move with
  | read reading =>
    left
    change ∃ appended tested, first.Awaits place accepts deadline appended tested
      (scene.read reading)
    unfold Scene.read
    split
    · exact ⟨_, _, awaits.of_reader (buffer_read scene.reader reading)⟩
    · exact ⟨_, _, awaits⟩
  | start => exact .inl ⟨_, _, awaits.of_same_buffer (buffer_begun scene.reader)⟩
  | enter => exact .inl ⟨_, _, awaits.of_same_buffer (buffer_enter scene.reader)⟩
  | stop => exact .inl ⟨_, _, awaits.of_same_buffer rfl⟩
  | pass micros => exact .inl ⟨_, _, awaits.of_same_buffer rfl⟩
  | search others limit =>
    have inside := (List.getElem?_eq_some_iff.mp awaits.waiting).1
    refine .inl ⟨_, _, awaits.arrived, awaits.removed, awaits.conserved, awaits.rejected, ?_,
      awaits.clock⟩
    exact (List.getElem?_append_left inside).trans awaits.waiting
  | look other =>
    cases alone other rfl
    have same : (scene.move (.look place)).clock = scene.clock := by
      unfold Scene.move
      dsimp only
      split <;> rfl
    obtain ⟨looked, found, answer, search, arrived, removed, waiting, answers⟩ := awaits.look
    cases answers with
    | ended => exact .inr ⟨_, waiting, Option.some_ne_none found⟩
    | refused => exact .inr ⟨_, waiting, Option.some_ne_none _⟩
    | waits =>
      left
      obtain ⟨-, rejected⟩ := search.rejected_of_absent
      have whole := search.tested_append_left
      refine ⟨_, _, arrived.trans awaits.arrived, removed, whole.symm, ?_, waiting,
        same.trans awaits.clock⟩
      intro frame member
      apply rejected frame
      rw [← whole]
      exact List.mem_append_left _ member

theorem Awaits.run (awaits : first.Awaits place accepts deadline appended tested scene)
    {moves : List Move} (alone : ∀ other, .look other ∈ moves → other = place)
    (waiting : (scene.run moves).searches[place]? = some ⟨accepts, deadline, none⟩) :
    ∃ appended tested, first.Awaits place accepts deadline appended tested (scene.run moves) := by
  induction moves generalizing scene appended tested with
  | nil => exact ⟨_, _, awaits⟩
  | cons move moves ih =>
    have later : ∀ other, .look other ∈ moves → other = place :=
      fun other member => alone other (List.mem_cons_of_mem _ member)
    have now : ∀ other, move = .look other → other = place := by
      rintro other rfl
      exact alone other (by simp)
    rcases awaits.move now with ⟨_, _, still⟩ | ⟨search, found, ended⟩
    · exact ih still later waiting
    · cases (searches_run_of_ended found ended moves).symm.trans waiting
      exact absurd rfl ended

end Scene

end ThreadLab.Reader
