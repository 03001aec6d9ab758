import ThreadLab.Proofs.Reader.Scene
import ThreadLab.Reader.Tap

namespace ThreadLab.Reader

theorem readAll_cons (reader : Reader) (reading : Reading) (readings : List Reading) :
    (reader.readAll (reading :: readings)).1 =
      ((if reader.isRunning then reader.read reading else reader).readAll readings).1 := by
  rw [readAll]
  split
  · rfl
  · rename_i idle
    cases readings with
    | nil => rfl
    | cons next readings => rw [readAll, if_neg idle]

namespace Scene

variable {scene : Scene}

theorem run_append (scene : Scene) (first second : List Move) :
    scene.run (first ++ second) = (scene.run first).run second :=
  List.foldl_append

/-- A scene with the reader and the clock of a tap, and a search at a place. -/
structure Shows (scene : Scene) (tap : Tap) (place : Nat) (search : Search) : Prop where
  reader : scene.reader = tap.reader
  now : scene.now = tap.now
  clock : scene.clock = tap.clock
  search : scene.searches[place]? = some search

variable {tap : Tap} {place : Nat} {search : Search}

theorem Shows.pass (shows : scene.Shows tap place search) {now : Int} (later : tap.now ≤ now) :
    (scene.run [.pass (now - tap.now).toNat]).Shows { tap with now } place search where
  reader := shows.reader
  now := by
    show scene.now + ((now - tap.now).toNat : Int) = now
    rw [shows.now]
    omega
  clock := shows.clock
  search := shows.search

theorem Shows.readAll (shows : scene.Shows tap place search) (readings : List Reading) :
    (scene.run (readings.map .read)).Shows
      { tap with reader := (tap.reader.readAll readings).1 } place search := by
  induction readings generalizing scene tap with
  | nil => exact shows
  | cons reading readings ih =>
    rw [readAll_cons]
    by_cases running : tap.reader.isRunning
    · have first : (scene.read reading).Shows { tap with reader := tap.reader.read reading } place
          search := by
        unfold Scene.read
        rw [shows.reader, if_pos running]
        exact ⟨rfl, shows.now, shows.clock, shows.search⟩
      rw [if_pos running]
      exact ih first
    · have same : scene.read reading = scene := by
        unfold Scene.read
        rw [shows.reader, if_neg running]
      rw [if_neg running]
      show ((scene.read reading).run _).Shows _ place search
      rw [same]
      exact ih shows

theorem Shows.look {accepts : Bytes → Except Fault Bool} {deadline : Int}
    (shows : scene.Shows tap place ⟨accepts, deadline, none⟩) {found : Except Fault (Option Bytes)}
    {buffer : List Bytes} (taken : takeFirst accepts tap.reader.buffer = (found, buffer)) :
    (scene.run [.look place]).Shows { tap with reader := { tap.reader with buffer } } place
      ⟨accepts, deadline, answer tap.clock deadline tap.now found⟩ := by
  have inside := (List.getElem?_eq_some_iff.mp shows.search).1
  have looked : scene.run [.look place] = scene.look place ⟨accepts, deadline, none⟩ := by
    show scene.move (.look place) = _
    unfold Scene.move
    dsimp only
    rw [shows.search]
  rw [looked]
  unfold Scene.look
  rw [shows.reader, shows.now, shows.clock, taken]
  exact ⟨rfl, rfl, rfl, List.getElem?_set_self inside⟩

/-- The moves of a scene in which nothing happens but one poll: its search looks, the loop reads what
there is to read, and time passes. -/
inductive PollMove (place : Nat) (readings : List Reading) : Move → Prop
  | look : PollMove place readings (.look place)
  | read {reading : Reading} (listed : reading ∈ readings) : PollMove place readings (.read reading)
  | pass (micros : Nat) : PollMove place readings (.pass micros)

def PollMoves (place : Nat) (readings : List Reading) (moves : List Move) : Prop :=
  ∀ move ∈ moves, PollMove place readings move

section

variable {readings : List Reading} {first second : List Move}

theorem PollMoves.append (before : PollMoves place readings first)
    (after : PollMoves place readings second) : PollMoves place readings (first ++ second) :=
  List.forall_mem_append.mpr ⟨before, after⟩

theorem PollMoves.mono {others : List Reading} (moves : PollMoves place readings first)
    (subset : readings ⊆ others) : PollMoves place others first := by
  intro move member
  cases moves move member with
  | look => exact .look
  | read listed => exact .read (subset listed)
  | pass micros => exact .pass micros

end

theorem suffix_readAll (reader : Reader) (readings : List Reading) :
    (reader.readAll readings).2 <:+ readings := by
  induction readings generalizing reader with
  | nil => exact List.suffix_rfl
  | cons reading readings ih =>
    rw [Reader.readAll]
    split
    · exact (ih _).trans (List.suffix_cons reading readings)
    · exact List.suffix_rfl

def readable (tap : Tap) (arrivals : List Arrival) : List Reading :=
  tap.unread ++ arrivals.map fun arrival => .frame arrival.frame

theorem readable_queue (tap : Tap) (arrival : Arrival) (later : List Arrival) :
    readable (tap.queue (.frame arrival.frame)) later ⊆ readable tap (arrival :: later) := by
  have left := (suffix_readAll tap.reader (tap.unread ++ [.frame arrival.frame])).subset
  intro reading member
  rw [readable, List.map_cons, List.append_cons]
  rcases List.mem_append.mp member with queued | arrives
  · exact List.mem_append_left _ (left queued)
  · exact List.mem_append_right _ arrives

theorem Shows.exists_queue (shows : scene.Shows tap place search) (arrival : Arrival)
    (later : List Arrival) :
    ∃ moves, PollMoves place (readable tap (arrival :: later)) moves ∧
      (scene.run moves).Shows (tap.queue (.frame arrival.frame)) place search := by
  obtain ⟨reader, now, clock, found⟩ := shows.readAll (tap.unread ++ [.frame arrival.frame])
  refine ⟨_, ?_, reader, now, clock, found⟩
  intro move member
  obtain ⟨reading, listed, rfl⟩ := List.mem_map.mp member
  apply PollMove.read
  rw [readable, List.map_cons, List.append_cons]
  exact List.mem_append_left _ listed

theorem Shows.exists_arrive (shows : scene.Shows tap place search) (arrivals : List Arrival) :
    ∃ moves, PollMoves place (readable tap arrivals) moves ∧
      (scene.run moves).Shows (tap.arrive arrivals) place search := by
  induction arrivals generalizing scene tap with
  | nil => exact ⟨[], nofun, shows⟩
  | cons arrival arrivals ih =>
    obtain ⟨first, reads, queued⟩ := shows.exists_queue arrival arrivals
    obtain ⟨rest, others, arrived⟩ := ih queued
    refine ⟨first ++ rest, reads.append (others.mono (readable_queue tap arrival arrivals)), ?_⟩
    rw [run_append]
    exact arrived

theorem Shows.rest {accepts : Bytes → Except Fault Bool} {deadline : Int}
    (shows : scene.Shows tap place ⟨accepts, deadline, none⟩) {found : Except Fault (Option Bytes)}
    {buffer : List Bytes} (taken : takeFirst accepts tap.reader.buffer = (found, buffer))
    (waits : answer tap.clock deadline tap.now found = none) {now : Int} (later : tap.now ≤ now) :
    (scene.run [.look place, .pass (now - tap.now).toNat]).Shows
      { tap with reader := { tap.reader with buffer }, now } place ⟨accepts, deadline, none⟩ := by
  have looked := shows.look taken
  rw [waits] at looked
  exact looked.pass later

theorem pollMoves_rest (place : Nat) (readings : List Reading) (micros : Nat) :
    PollMoves place readings [.look place, .pass micros] := by
  intro move member
  rcases List.mem_cons.mp member with rfl | member
  · exact .look
  · rw [List.mem_singleton.mp member]
    exact .pass micros

/-- A poll is a search among the moves of some order: it looks at once, and again after each arrival
or sleep. -/
theorem Shows.exists_pollUntil {accepts : Bytes → Except Fault Bool} {deadline : Int}
    (shows : scene.Shows tap place ⟨accepts, deadline, none⟩) (arrivals : List Arrival) :
    let poll := Tap.pollUntil accepts deadline tap arrivals
    ∃ moves, PollMoves place (readable tap arrivals) moves ∧
      readable poll.tap poll.missed ⊆ readable tap arrivals ∧
      (scene.run moves).Shows poll.tap place ⟨accepts, deadline, some poll.result⟩ := by
  induction tap, arrivals using Tap.pollUntil_induction accepts deadline generalizing scene with
  | ends tap arrivals found result buffer taken answered =>
    have looked := shows.look taken
    rw [answered] at looked
    rw [Tap.pollUntil_ends taken answered]
    refine ⟨_, ?_, List.Subset.refl _, looked⟩
    intro move member
    rw [List.mem_singleton.mp member]
    exact .look
  | nap tap arrivals found buffer taken waits distant again =>
    have rested := shows.rest taken waits (Int.le_of_lt (tap.lt_wake deadline))
    obtain ⟨rest, moves, subset, ended⟩ := again rested
    rw [← run_append] at ended
    rw [Tap.pollUntil_nap taken waits distant]
    exact ⟨_, (pollMoves_rest _ _ _).append moves, subset, ended⟩
  | arrival tap arrival later found buffer taken waits soon again =>
    have rested := shows.rest taken waits (Int.le_max_left tap.now arrival.instant)
    obtain ⟨second, reads, queued⟩ := rested.exists_queue arrival later
    obtain ⟨rest, moves, subset, ended⟩ := again queued
    have fewer := readable_queue
      { tap with reader := { tap.reader with buffer }, now := max tap.now arrival.instant } arrival later
    rw [← run_append, ← run_append] at ended
    rw [Tap.pollUntil_arrival taken waits soon]
    exact ⟨_, (pollMoves_rest _ _ _).append (reads.append (moves.mono fewer)),
      List.Subset.trans subset fewer, ended⟩

theorem exists_run_poll {scene : Scene} {tap : Tap} (reader : scene.reader = tap.reader)
    (now : scene.now = tap.now) (clock : scene.clock = tap.clock) (deadline : Int)
    (accepts : Bytes → Except Fault Bool) (arrivals : List Arrival) :
    ∃ moves, PollMoves scene.searches.length (readable tap arrivals) moves ∧
      (scene.run (.search accepts deadline :: moves)).Shows
        (tap.pollTo deadline accepts arrivals).2 scene.searches.length
        ⟨accepts, deadline, some (tap.pollTo deadline accepts arrivals).1⟩ := by
  have begun : (scene.move (.search accepts deadline)).Shows tap scene.searches.length
      ⟨accepts, deadline, none⟩ := ⟨reader, now, clock, List.getElem?_concat_length⟩
  obtain ⟨waiting, moves, subset, ended⟩ := begun.exists_pollUntil arrivals
  obtain ⟨missed, others, settled⟩ := ended.exists_arrive
    (Tap.pollUntil accepts deadline tap arrivals).missed
  rw [← run_append] at settled
  exact ⟨_, moves.append (others.mono subset), settled⟩

end Scene

/-- In whatever order a reader, its searches and its callers have their turns: the frames that were
read are those that were taken out, followed by the buffer. A search that gives an answer gives
nothing, or the last frame that it took out; each gives at most one frame, and what is given is a part
of what was read, in the same order. A poll of a tap is such a search, with the same result, while the
loop reads what is queued and time passes. -/
theorem frames_conserved :
    (∀ (clock : Clock) (descriptor mtu now : Int) (moves : List Move),
      let scene := (Scene.opening clock descriptor mtu now).run moves
      scene.arrived = scene.removed.map Removal.frame ++ scene.reader.buffer ∧
      (∀ place search answer, scene.searches[place]? = some search →
        search.result = some (.ok answer) → answer = none ∨
          ∃ frame, answer = some frame ∧ (takenBy place scene.removed).getLast? = some frame) ∧
      (∀ place frame, ⟨place, frame⟩ ∈ scene.returned ↔
        ∃ search, scene.searches[place]? = some search ∧
          search.result = some (.ok (some frame))) ∧
      scene.returned.Sublist scene.removed ∧ (scene.returned.map Removal.search).Nodup ∧
      (scene.returned.map Removal.frame).Sublist scene.arrived) ∧
    ∀ (scene : Scene) (tap : Tap) (deadline : Int) (accepts : Bytes → Except Fault Bool)
      (arrivals : List Arrival), scene.reader = tap.reader → scene.now = tap.now →
      scene.clock = tap.clock →
      ∃ moves, Scene.PollMoves scene.searches.length (Scene.readable tap arrivals) moves ∧
        (scene.run (.search accepts deadline :: moves)).Shows
          (tap.pollTo deadline accepts arrivals).2 scene.searches.length
          ⟨accepts, deadline, some (tap.pollTo deadline accepts arrivals).1⟩ := by
  constructor
  · intro clock descriptor mtu now moves
    have orderly := (Scene.orderly_opening clock descriptor mtu now).run moves
    exact ⟨orderly.conserved, fun place search answer => orderly.answer_last, orderly.answered,
      orderly.sublist, orderly.once, orderly.returned_sublist⟩
  · intro scene tap deadline accepts arrivals reader now clock
    exact Scene.exists_run_poll reader now clock deadline accepts arrivals

def sampleMoves : List Move :=
  [.start, .enter, .search (fun _ => .ok true) 9, .search (fun _ => .ok false) 5,
    .read (.frame [1, 2, 3]), .look 1, .pass 6, .look 1, .read (.frame [4]), .look 0,
    .read .failure, .stop, .start, .enter, .read (.frame [5])]

def sampleScene : Scene :=
  (Scene.opening .exact 7 2 0).run sampleMoves

theorem frames_conserved_sample :
    sampleScene.arrived = [[1, 2], [4], [5]] ∧
      sampleScene.removed.map Removal.frame ++ sampleScene.reader.buffer = [[1, 2], [4], [5]] ∧
      sampleScene.reader.buffer = [[5]] ∧
      (takenBy 0 sampleScene.removed).getLast? = some [4] ∧
      ∃ moves, Scene.PollMoves 2 [] moves ∧
        (sampleScene.run (.search (fun _ => .ok true) 9 :: moves)).reader =
          (Tap.pollTo { reader := sampleScene.reader, now := 6, clock := .exact } 9
            (fun _ => .ok true) []).2.reader := by
  have arrived : sampleScene.arrived = [[1, 2], [4], [5]] := rfl
  obtain ⟨conserved, answers, -⟩ := frames_conserved.1 .exact 7 2 0 sampleMoves
  refine ⟨arrived, conserved.symm.trans arrived, rfl, ?_, ?_⟩
  · rcases answers 0 _ (some [4]) rfl rfl with nothing | ⟨frame, given, last⟩
    · cases nothing
    · cases given
      exact last
  · obtain ⟨moves, polls, shown⟩ := frames_conserved.2 sampleScene
      { reader := sampleScene.reader, now := 6, clock := .exact } 9 (fun _ => .ok true) [] rfl rfl rfl
    exact ⟨moves, polls, shown.reader⟩

end ThreadLab.Reader
