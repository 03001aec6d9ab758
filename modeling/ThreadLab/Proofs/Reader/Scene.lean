import Mathlib.Data.List.Nodup
import ThreadLab.Reader.Basic

namespace ThreadLab.Reader

def passed (accepts : Bytes → Except Fault Bool) : List Bytes → List Bytes
  | [] => []
  | frame :: frames =>
    match accepts frame with
    | .ok false => frame :: passed accepts frames
    | _ => [frame]

theorem passed_append_takeFirst (accepts : Bytes → Except Fault Bool) (frames : List Bytes) :
    passed accepts frames ++ (takeFirst accepts frames).2 = frames := by
  induction frames with
  | nil => rfl
  | cons frame frames ih =>
    rw [passed, takeFirst]
    rcases accepts frame with fault | _ | _
    · rfl
    · exact congrArg (frame :: ·) ih
    · rfl

theorem exists_passed_of_found {accepts : Bytes → Except Fault Bool} {frames : List Bytes}
    {frame : Bytes} (found : (takeFirst accepts frames).1 = .ok (some frame)) :
    ∃ before, passed accepts frames = before ++ [frame] := by
  induction frames with
  | nil => cases found
  | cons first frames ih =>
    rw [takeFirst] at found
    rw [passed]
    rcases answer : accepts first with fault | _ | _ <;> rw [answer] at found
    · cases found
    · obtain ⟨before, same⟩ := ih found
      exact ⟨first :: before, congrArg (first :: ·) same⟩
    · cases found
      exact ⟨[], rfl⟩

def kept (reader : Reader) (reading : Reading) : List Bytes :=
  match reader.received reading with
  | [] => []
  | frame => [frame]

theorem buffer_read (reader : Reader) (reading : Reading) :
    (reader.read reading).buffer = reader.buffer ++ reader.kept reading := by
  unfold read kept
  cases reader.received reading with
  | nil => exact (List.append_nil _).symm
  | cons byte frame => rfl

theorem buffer_enter (reader : Reader) : reader.enter.buffer = reader.buffer := by
  unfold enter
  split <;> rfl

def begun (reader : Reader) : Reader :=
  match reader.start with
  | .ok started => started
  | .error _ => reader

theorem buffer_begun (reader : Reader) : reader.begun.buffer = reader.buffer := by
  unfold begun start
  cases reader.phase <;> rfl

structure Search where
  accepts : Bytes → Except Fault Bool
  deadline : Int
  result : Option (Except Fault (Option Bytes)) := none

theorem answer_eq_found {clock : Clock} {deadline now : Int} {found : Except Fault (Option Bytes)}
    {frame : Bytes} :
    answer clock deadline now found = some (.ok (some frame)) ↔ found = .ok (some frame) := by
  rcases found with fault | _ | given
  · simp [answer]
  · unfold answer
    dsimp only
    split
    · simp
    · split <;> simp
  · simp [answer]

structure Removal where
  search : Nat
  frame : Bytes

def takenBy (place : Nat) (removals : List Removal) : List Bytes :=
  (removals.filter (·.search = place)).map Removal.frame

def givenBack (place : Nat) (found : Except Fault (Option Bytes)) : List Removal :=
  match found with
  | .ok (some frame) => [⟨place, frame⟩]
  | _ => []

theorem mem_givenBack {place : Nat} {found : Except Fault (Option Bytes)} {removal : Removal} :
    removal ∈ givenBack place found ↔
      removal.search = place ∧ found = .ok (some removal.frame) := by
  obtain ⟨other, frame⟩ := removal
  rcases found with fault | _ | given
  · simp [givenBack]
  · simp [givenBack]
  · simp [givenBack, eq_comm]

theorem givenBack_sublist (place : Nat) (accepts : Bytes → Except Fault Bool) (frames : List Bytes) :
    (givenBack place (takeFirst accepts frames).1).Sublist
      ((passed accepts frames).map (Removal.mk place)) := by
  rcases found : (takeFirst accepts frames).1 with fault | _ | frame
  · exact List.nil_sublist _
  · exact List.nil_sublist _
  · obtain ⟨before, same⟩ := exists_passed_of_found found
    rw [same, List.map_append]
    exact List.sublist_append_right _ _

theorem takenBy_append_self (place : Nat) (removals : List Removal) (frames : List Bytes) :
    takenBy place (removals ++ frames.map (Removal.mk place)) = takenBy place removals ++ frames := by
  have all : (frames.map (Removal.mk place)).filter (·.search = place) =
      frames.map (Removal.mk place) := by
    rw [List.filter_eq_self]
    intro removal member
    obtain ⟨frame, -, rfl⟩ := List.mem_map.mp member
    exact decide_eq_true rfl
  rw [takenBy, List.filter_append, all, List.map_append, List.map_map]
  exact congrArg (_ ++ ·) (List.map_id frames)

theorem takenBy_append_other {place other : Nat} (apart : other ≠ place) (removals : List Removal)
    (frames : List Bytes) :
    takenBy other (removals ++ frames.map (Removal.mk place)) = takenBy other removals := by
  have none : (frames.map (Removal.mk place)).filter (·.search = other) = [] := by
    rw [List.filter_eq_nil_iff]
    intro removal member
    obtain ⟨frame, -, rfl⟩ := List.mem_map.mp member
    simpa using apart.symm
  rw [takenBy, List.filter_append, none, List.append_nil, takenBy]

/-- A reader, all searches so far, and what has happened: the frames that were read, those that were
taken out, and those that were given back to callers. -/
structure Scene where
  reader : Reader
  now : Int
  clock : Clock
  searches : List Search := []
  arrived : List Bytes := []
  removed : List Removal := []
  returned : List Removal := []

inductive Move where
  | read (reading : Reading)
  | start
  | enter
  | stop
  | pass (micros : Nat)
  | search (accepts : Bytes → Except Fault Bool) (deadline : Int)
  | look (place : Nat)

namespace Scene

def opening (clock : Clock) (descriptor mtu now : Int) : Scene where
  reader := { descriptor, mtu }
  now
  clock

def read (scene : Scene) (reading : Reading) : Scene :=
  if scene.reader.isRunning then
    { scene with
      reader := scene.reader.read reading
      arrived := scene.arrived ++ scene.reader.kept reading }
  else scene

def look (scene : Scene) (place : Nat) (search : Search) : Scene :=
  let found := (takeFirst search.accepts scene.reader.buffer).1
  { scene with
    reader := { scene.reader with buffer := (takeFirst search.accepts scene.reader.buffer).2 }
    searches := scene.searches.set place
      { search with result := answer scene.clock search.deadline scene.now found }
    removed := scene.removed ++ (passed search.accepts scene.reader.buffer).map (Removal.mk place)
    returned := scene.returned ++ givenBack place found }

/-- Only a search that has not ended looks. -/
def move (scene : Scene) : Move → Scene
  | .read reading => scene.read reading
  | .start => { scene with reader := scene.reader.begun }
  | .enter => { scene with reader := scene.reader.enter }
  | .stop => { scene with reader := scene.reader.stop }
  | .pass micros => { scene with now := scene.now + micros }
  | .search accepts deadline =>
    { scene with searches := scene.searches ++ [{ accepts, deadline }] }
  | .look place =>
    match scene.searches[place]? with
    | some ⟨accepts, deadline, none⟩ => scene.look place ⟨accepts, deadline, none⟩
    | _ => scene

def run (scene : Scene) (moves : List Move) : Scene :=
  moves.foldl move scene

/-- What never changes about a scene, whatever happens. -/
structure Orderly (scene : Scene) : Prop where
  conserved : scene.arrived = scene.removed.map Removal.frame ++ scene.reader.buffer
  sublist : scene.returned.Sublist scene.removed
  once : (scene.returned.map Removal.search).Nodup
  answered : ∀ place frame, ⟨place, frame⟩ ∈ scene.returned ↔
    ∃ search, scene.searches[place]? = some search ∧ search.result = some (.ok (some frame))
  last : ∀ removal ∈ scene.returned,
    (takenBy removal.search scene.removed).getLast? = some removal.frame

theorem orderly_opening (clock : Clock) (descriptor mtu now : Int) :
    (opening clock descriptor mtu now).Orderly where
  conserved := rfl
  sublist := List.Sublist.slnil
  once := List.nodup_nil
  answered := by
    intro place frame
    constructor
    · intro member
      cases member
    · rintro ⟨search, found, -⟩
      cases found
  last := by
    intro removal member
    cases member

variable {scene : Scene}

theorem Orderly.of_reader (orderly : scene.Orderly) {reader : Reader} {now : Int}
    {frames : List Bytes} (buffer : reader.buffer = scene.reader.buffer ++ frames) :
    Orderly { scene with reader, now, arrived := scene.arrived ++ frames } where
  conserved := by
    rw [orderly.conserved, List.append_assoc]
    exact congrArg (scene.removed.map Removal.frame ++ ·) buffer.symm
  sublist := orderly.sublist
  once := orderly.once
  answered := orderly.answered
  last := orderly.last

theorem Orderly.of_same_buffer (orderly : scene.Orderly) {reader : Reader} {now : Int}
    (buffer : reader.buffer = scene.reader.buffer) : Orderly { scene with reader, now } := by
  have kept := @Orderly.of_reader scene orderly reader now [] (by rw [buffer, List.append_nil])
  rwa [List.append_nil] at kept

theorem Orderly.read (orderly : scene.Orderly) (reading : Reading) :
    (scene.read reading).Orderly := by
  unfold Scene.read
  split
  · exact orderly.of_reader (buffer_read scene.reader reading)
  · exact orderly

theorem Orderly.search (orderly : scene.Orderly) (accepts : Bytes → Except Fault Bool)
    (deadline : Int) :
    Orderly { scene with searches := scene.searches ++ [{ accepts, deadline }] } where
  conserved := orderly.conserved
  sublist := orderly.sublist
  once := orderly.once
  answered := by
    intro place frame
    rw [orderly.answered]
    constructor
    · rintro ⟨search, found, ended⟩
      have inside := (List.getElem?_eq_some_iff.mp found).1
      exact ⟨search, (List.getElem?_append_left inside).trans found, ended⟩
    · rintro ⟨search, found, ended⟩
      refine ⟨search, ?_, ended⟩
      dsimp only at found
      rw [List.getElem?_append] at found
      split at found
      · exact found
      · rw [List.getElem?_singleton] at found
        split at found
        · cases found
          cases ended
        · cases found
  last := orderly.last

theorem Orderly.look (orderly : scene.Orderly) {place : Nat} {search : Search}
    (waiting : scene.searches[place]? = some search) (unanswered : search.result = none) :
    (scene.look place search).Orderly := by
  have inside := (List.getElem?_eq_some_iff.mp waiting).1
  have fresh : ∀ removal ∈ scene.returned, removal.search ≠ place := by
    rintro ⟨other, frame⟩ member rfl
    obtain ⟨known, found, ended⟩ := (orderly.answered other frame).mp member
    rw [waiting] at found
    cases found
    rw [unanswered] at ended
    cases ended
  constructor
  case conserved =>
    have frames : ((passed search.accepts scene.reader.buffer).map (Removal.mk place)).map
        Removal.frame = passed search.accepts scene.reader.buffer := by
      rw [List.map_map]
      exact List.map_id _
    have whole := passed_append_takeFirst search.accepts scene.reader.buffer
    rw [Scene.look, List.map_append, frames, List.append_assoc]
    dsimp only
    rw [whole]
    exact orderly.conserved
  case sublist =>
    exact orderly.sublist.append (givenBack_sublist place search.accepts scene.reader.buffer)
  case once =>
    rw [Scene.look, List.map_append]
    refine List.nodup_append.mpr ⟨orderly.once, ?_, ?_⟩
    · unfold givenBack
      split
      · exact List.nodup_singleton _
      · exact List.nodup_nil
    · rintro other earlier later given rfl
      obtain ⟨removal, member, rfl⟩ := List.mem_map.mp earlier
      obtain ⟨again, new, same⟩ := List.mem_map.mp given
      apply fresh removal member
      rw [← same]
      exact (mem_givenBack.mp new).1
  case answered =>
    intro other frame
    rw [Scene.look, List.mem_append, mem_givenBack]
    dsimp only
    by_cases here : other = place
    · subst here
      rw [List.getElem?_set_self inside]
      constructor
      · rintro (earlier | ⟨-, found⟩)
        · exact absurd rfl (fresh _ earlier)
        · exact ⟨_, rfl, answer_eq_found.mpr found⟩
      · rintro ⟨known, same, ended⟩
        cases same
        exact .inr ⟨rfl, answer_eq_found.mp ended⟩
    · rw [List.getElem?_set_ne (Ne.symm here), orderly.answered]
      simp only [here, false_and, or_false]
  case last =>
    intro removal member
    rw [Scene.look] at member ⊢
    dsimp only at member ⊢
    rcases List.mem_append.mp member with earlier | given
    · rw [takenBy_append_other (fresh removal earlier)]
      exact orderly.last removal earlier
    · obtain ⟨same, found⟩ := mem_givenBack.mp given
      obtain ⟨before, ends⟩ := exists_passed_of_found found
      rw [same, takenBy_append_self, ends, ← List.append_assoc, List.getLast?_concat]

theorem Orderly.move (orderly : scene.Orderly) (move : Move) : (scene.move move).Orderly := by
  cases move with
  | read reading => exact orderly.read reading
  | start => exact orderly.of_same_buffer (buffer_begun scene.reader)
  | enter => exact orderly.of_same_buffer (buffer_enter scene.reader)
  | stop => exact orderly.of_same_buffer rfl
  | pass micros => exact orderly.of_same_buffer rfl
  | search accepts deadline => exact orderly.search accepts deadline
  | look place =>
    unfold Scene.move
    dsimp only
    split
    · rename_i waiting
      exact orderly.look waiting rfl
    · exact orderly

theorem Orderly.run (orderly : scene.Orderly) (moves : List Move) : (scene.run moves).Orderly := by
  induction moves generalizing scene with
  | nil => exact orderly
  | cons move moves ih => exact ih (orderly.move move)

theorem Orderly.answer_last (orderly : scene.Orderly) {place : Nat} {search : Search}
    {answer : Option Bytes} (found : scene.searches[place]? = some search)
    (ended : search.result = some (.ok answer)) :
    answer = none ∨ ∃ frame, answer = some frame ∧
      (takenBy place scene.removed).getLast? = some frame := by
  cases answer with
  | none => exact .inl rfl
  | some frame =>
    have member := (orderly.answered place frame).mpr ⟨search, found, ended⟩
    exact .inr ⟨frame, rfl, orderly.last _ member⟩

theorem Orderly.returned_sublist (orderly : scene.Orderly) :
    (scene.returned.map Removal.frame).Sublist scene.arrived := by
  rw [orderly.conserved]
  exact (orderly.sublist.map Removal.frame).trans (List.sublist_append_left _ _)

end Scene

end ThreadLab.Reader
