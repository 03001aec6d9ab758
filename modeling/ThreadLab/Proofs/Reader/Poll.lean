import ThreadLab.Proofs.Clock
import ThreadLab.Proofs.Reader.Await
import ThreadLab.Reader.Tap

namespace ThreadLab

namespace Reader

def behind (frames : List Bytes) (reader : Reader) : Reader :=
  { reader with buffer := frames ++ reader.buffer }

theorem read_behind (frames : List Bytes) (reader : Reader) (reading : Reading) :
    (reader.behind frames).read reading = (reader.read reading).behind frames := by
  have same : (reader.behind frames).received reading = reader.received reading := rfl
  unfold read
  rw [same]
  cases reader.received reading with
  | nil => rfl
  | cons byte frame => exact congrArg (fun buffer => { reader with buffer }) (List.append_assoc ..)

theorem readAll_behind (frames : List Bytes) (reader : Reader) (readings : List Reading) :
    (reader.behind frames).readAll readings =
      ((reader.readAll readings).1.behind frames, (reader.readAll readings).2) := by
  induction readings generalizing reader with
  | nil => rfl
  | cons reading readings ih =>
    rw [readAll, readAll, read_behind, ih]
    change (if reader.isRunning then _ else _) = _
    split <;> rfl

end Reader

namespace Tap

def behind (frames : List Bytes) (tap : Tap) : Tap :=
  { tap with reader := tap.reader.behind frames }

theorem queue_behind (frames : List Bytes) (tap : Tap) (reading : Reading) :
    (tap.behind frames).queue reading = (tap.queue reading).behind frames := by
  unfold queue settle behind
  dsimp only
  rw [Reader.readAll_behind]

theorem arrive_behind (frames : List Bytes) (tap : Tap) (arrivals : List Arrival) :
    (tap.behind frames).arrive arrivals = (tap.arrive arrivals).behind frames := by
  induction arrivals generalizing tap with
  | nil => rfl
  | cons arrival arrivals ih =>
    change ((tap.behind frames).queue _).arrive arrivals = ((tap.queue _).arrive arrivals).behind frames
    rw [queue_behind, ih]

theorem arrive_now (tap : Tap) (now : Int) (arrivals : List Arrival) :
    { tap with now }.arrive arrivals = { tap.arrive arrivals with now } := by
  induction arrivals generalizing tap with
  | nil => rfl
  | cons arrival arrivals ih => exact ih (tap.queue (.frame arrival.frame))

theorem arrive_append (tap : Tap) (first second : List Arrival) :
    tap.arrive (first ++ second) = (tap.arrive first).arrive second :=
  List.foldl_append

end Tap

namespace Reader

variable {σ : Type}

def takeFirstAsking (asks : Bytes → StateM σ (Except Fault Bool)) :
    List Bytes → StateM σ (Except Fault (Option Bytes) × List Bytes)
  | [] => return (.ok none, [])
  | frame :: frames => do
    match ← asks frame with
    | .error fault => return (.error fault, frames)
    | .ok true => return (.ok (some frame), frames)
    | .ok false => takeFirstAsking asks frames

def noted (accepts : Bytes → Except Fault Bool) (frame : Bytes) :
    StateM (List Bytes) (Except Fault Bool) :=
  fun notes => (accepts frame, notes ++ [frame])

theorem takeFirstAsking_noted (accepts : Bytes → Except Fault Bool) (frames notes : List Bytes) :
    takeFirstAsking (noted accepts) frames notes =
      (takeFirst accepts frames, notes ++ passed accepts frames) := by
  induction frames generalizing notes with
  | nil => exact congrArg (Prod.mk _) (List.append_nil notes).symm
  | cons frame frames ih =>
    have rest := ih (notes ++ [frame])
    rw [takeFirst, passed]
    change (match accepts frame with
      | .error fault => _ | .ok true => _ | .ok false => _ : StateM (List Bytes) _)
      (notes ++ [frame]) = _
    rcases accepts frame with fault | _ | _
    · rfl
    · rw [List.append_assoc] at rest
      exact rest
    · rfl

theorem takeFirstAsking_bind {β : Type} (accepts : Bytes → Except Fault Bool)
    (frames notes : List Bytes)
    (next : Except Fault (Option Bytes) × List Bytes → StateM (List Bytes) β) :
    (takeFirstAsking (noted accepts) frames >>= next) notes =
      next (takeFirst accepts frames) (notes ++ passed accepts frames) := by
  change next (takeFirstAsking (noted accepts) frames notes).1
    (takeFirstAsking (noted accepts) frames notes).2 = _
  rw [takeFirstAsking_noted]

end Reader

namespace Tap

def pollAsking {σ : Type} (asks : Bytes → StateM σ (Except Fault Bool)) (deadline : Int) (tap : Tap)
    (arrivals : List Arrival) : StateM σ Poll := do
  let taken ← Reader.takeFirstAsking asks tap.reader.buffer
  let looked := { tap with reader := { tap.reader with buffer := taken.2 } }
  match _ : Reader.answer tap.clock deadline tap.now taken.1 with
  | some result => return ⟨result, looked, arrivals⟩
  | none =>
    match arrivals with
    | [] => pollAsking asks deadline { looked with now := tap.wake deadline } []
    | arrival :: later =>
      if arrival.instant ≤ tap.wake deadline then
        pollAsking asks deadline
          ({ looked with now := max tap.now arrival.instant }.queue (.frame arrival.frame)) later
      else pollAsking asks deadline { looked with now := tap.wake deadline } (arrival :: later)
termination_by (deadline - tap.now).toNat + arrivals.length
decreasing_by
  all_goals
    have early := (Reader.answer_eq_none.mp ‹_›).2.1
    have later := tap.lt_wake deadline
    simp only [now_queue, List.length_cons, List.length_nil]
    omega

theorem now_arrive (tap : Tap) (arrivals : List Arrival) : (tap.arrive arrivals).now = tap.now := by
  induction arrivals generalizing tap with
  | nil => rfl
  | cons arrival arrivals ih => exact ih (tap.queue (.frame arrival.frame))

theorem clock_arrive (tap : Tap) (arrivals : List Arrival) :
    (tap.arrive arrivals).clock = tap.clock := by
  induction arrivals generalizing tap with
  | nil => rfl
  | cons arrival arrivals ih => exact ih (tap.queue (.frame arrival.frame))

def emptied (tap : Tap) : Tap :=
  { tap with reader := { tap.reader with buffer := [] } }

theorem behind_emptied (tap : Tap) : tap.emptied.behind tap.reader.buffer = tap := by
  show { tap with reader := { tap.reader with buffer := _ ++ [] } } = tap
  rw [List.append_nil]

/-- How a poll ends that has tested some of the frames that were buffered or came with the arrivals
that it used, and found something, or nothing, with them. Without the poll, the tap would have these
frames in front of those that are left. A predicate that takes notes is asked about each of them
once. -/
structure Poll.Exact (accepts : Bytes → Except Fault Bool) (deadline : Int) (tap : Tap)
    (arrivals used : List Arrival) (tested : List Bytes) (found : Except Fault (Option Bytes))
    (poll : Poll) : Prop where
  split : arrivals = used ++ poll.missed
  search : FirstMatch accepts (tap.arrive used).reader.buffer tested found poll.tap.reader.buffer
  answers : Reader.Answers tap.clock deadline poll.tap.now found (some poll.result)
  rest : tap.arrive used = { poll.tap.behind tested with now := tap.now }
  alert : poll.result = .ok none → (∀ arrival ∈ arrivals, tap.now ≤ arrival.instant) →
    arrivals.Pairwise (fun earlier later => earlier.instant ≤ later.instant) →
      ∀ arrival ∈ poll.missed, deadline ≤ arrival.instant
  asked : ∀ notes, pollAsking (Reader.noted accepts) deadline tap arrivals notes =
    (poll, notes ++ tested)

variable {accepts : Bytes → Except Fault Bool} {deadline : Int} {tap : Tap} {buffer : List Bytes}
  {found : Except Fault (Option Bytes)}

theorem pollAsking_ends {result : Except Fault (Option Bytes)}
    (taken : Reader.takeFirst accepts tap.reader.buffer = (found, buffer))
    (answered : Reader.answer tap.clock deadline tap.now found = some result)
    (arrivals : List Arrival) (notes : List Bytes) :
    pollAsking (Reader.noted accepts) deadline tap arrivals notes =
      (⟨result, { tap with reader := { tap.reader with buffer } }, arrivals⟩,
        notes ++ Reader.passed accepts tap.reader.buffer) := by
  rw [pollAsking.eq_def, Reader.takeFirstAsking_bind, taken]
  dsimp only
  rw [answered]
  rfl

theorem pollAsking_nap (taken : Reader.takeFirst accepts tap.reader.buffer = (found, buffer))
    (waits : Reader.answer tap.clock deadline tap.now found = none) {arrivals : List Arrival}
    (distant : ∀ arrival ∈ arrivals.head?, ¬arrival.instant ≤ tap.wake deadline)
    (notes : List Bytes) :
    pollAsking (Reader.noted accepts) deadline tap arrivals notes =
      pollAsking (Reader.noted accepts) deadline
        { tap with reader := { tap.reader with buffer }, now := tap.wake deadline } arrivals
        (notes ++ Reader.passed accepts tap.reader.buffer) := by
  rw [pollAsking.eq_def, Reader.takeFirstAsking_bind, taken]
  dsimp only
  rw [waits]
  cases arrivals with
  | nil => rfl
  | cons arrival later =>
    dsimp only
    rw [if_neg (distant arrival rfl)]

theorem pollAsking_arrival (taken : Reader.takeFirst accepts tap.reader.buffer = (found, buffer))
    (waits : Reader.answer tap.clock deadline tap.now found = none) {arrival : Arrival}
    (soon : arrival.instant ≤ tap.wake deadline) (later : List Arrival) (notes : List Bytes) :
    pollAsking (Reader.noted accepts) deadline tap (arrival :: later) notes =
      pollAsking (Reader.noted accepts) deadline
        (Tap.queue { tap with
          reader := { tap.reader with buffer }, now := max tap.now arrival.instant }
            (.frame arrival.frame)) later (notes ++ Reader.passed accepts tap.reader.buffer) := by
  rw [pollAsking.eq_def, Reader.takeFirstAsking_bind, taken]
  dsimp only
  rw [waits]
  dsimp only
  rw [if_pos soon]

theorem Poll.exact_look {result : Except Fault (Option Bytes)}
    (taken : Reader.takeFirst accepts tap.reader.buffer = (found, buffer))
    (answered : Reader.answer tap.clock deadline tap.now found = some result)
    (arrivals : List Arrival) :
    Poll.Exact accepts deadline tap arrivals [] (Reader.passed accepts tap.reader.buffer) found
      ⟨result, { tap with reader := { tap.reader with buffer } }, arrivals⟩ := by
  have search := Reader.firstMatch_takeFirst accepts tap.reader.buffer
  have answers := Reader.answers_answer tap.clock deadline tap.now found
  rw [taken] at search
  rw [answered] at answers
  constructor
  case split => rfl
  case search => exact search
  case answers => exact answers
  case rest =>
    show tap = { tap with reader := { tap.reader with buffer := _ ++ buffer } }
    rw [search.tested_append_left]
  case alert =>
    intro vain begun _ arrival met
    change result = .ok none at vain
    rw [vain] at answers
    cases answers with
    | ended late => exact (late rfl).trans (begun arrival met)
  case asked => exact pollAsking_ends taken answered arrivals

theorem Poll.Exact.after_look (first later : List Arrival) {used : List Arrival}
    {tested : List Bytes} {poll : Poll} {now : Int}
    (rejected : ∀ frame ∈ tap.reader.buffer, accepts frame = .ok false)
    (begun : (∀ arrival ∈ first ++ later, tap.now ≤ arrival.instant) →
      (first ++ later).Pairwise (fun earlier later => earlier.instant ≤ later.instant) →
        ∀ arrival ∈ later, now ≤ arrival.instant)
    (asked : ∀ notes, pollAsking (Reader.noted accepts) deadline tap (first ++ later) notes =
      pollAsking (Reader.noted accepts) deadline { tap.emptied.arrive first with now } later
        (notes ++ tap.reader.buffer))
    (exact : Poll.Exact accepts deadline { tap.emptied.arrive first with now } later used tested
      found poll) :
    Poll.Exact accepts deadline tap (first ++ later) (first ++ used) (tap.reader.buffer ++ tested)
      found poll := by
  have rest := exact.rest
  have search := exact.search
  rw [arrive_now] at rest search
  have all : tap.arrive (first ++ used) =
      ((tap.emptied.arrive first).arrive used).behind tap.reader.buffer := by
    rw [← arrive_append, ← arrive_behind, behind_emptied]
  constructor
  case split => rw [exact.split, List.append_assoc]
  case search =>
    rw [all]
    exact search.behind rejected
  case rest =>
    have clock : ((tap.emptied.arrive first).arrive used).now = tap.now := by
      rw [now_arrive, now_arrive]
      rfl
    have back : { (tap.emptied.arrive first).arrive used with now := tap.now } =
        { poll.tap.behind tested with now := tap.now } :=
      congrArg (fun other : Tap => { other with now := tap.now }) rest
    rw [← clock] at back
    change (tap.emptied.arrive first).arrive used = _ at back
    rw [all, back, clock]
    exact congrArg (fun buffer =>
      { poll.tap with reader := { poll.tap.reader with buffer }, now := tap.now })
      (List.append_assoc ..).symm
  case answers =>
    have answers := exact.answers
    dsimp only at answers
    rwa [clock_arrive] at answers
  case alert =>
    intro none since sorted
    exact exact.alert none (begun since sorted) (List.pairwise_append.mp sorted).2.1
  case asked =>
    intro notes
    rw [asked, exact.asked, List.append_assoc]

theorem rejected_of_taken {frames left : List Bytes}
    (taken : Reader.takeFirst accepts frames = (.ok none, left)) :
    left = [] ∧ (∀ frame ∈ frames, accepts frame = .ok false) ∧
      Reader.passed accepts frames = frames := by
  have search := Reader.firstMatch_takeFirst accepts frames
  rw [taken] at search
  obtain ⟨rfl, rejected⟩ := search.rejected_of_absent
  have whole := search.tested_append_left
  rw [List.append_nil] at whole
  exact ⟨rfl, rejected, whole⟩

theorem exists_exact (accepts : Bytes → Except Fault Bool) (deadline : Int) (tap : Tap)
    (arrivals : List Arrival) :
    ∃ used tested found, Poll.Exact accepts deadline tap arrivals used tested found
      (pollUntil accepts deadline tap arrivals) := by
  induction tap, arrivals using pollUntil_induction accepts deadline with
  | ends tap arrivals found result buffer taken answered =>
    rw [pollUntil_ends taken answered]
    exact ⟨_, _, _, Poll.exact_look taken answered arrivals⟩
  | nap tap arrivals found buffer taken waits distant again =>
    rw [pollUntil_nap taken waits distant]
    have asked := pollAsking_nap taken waits distant
    cases (Reader.answer_eq_none.mp waits).1
    obtain ⟨rfl, rejected, all⟩ := rejected_of_taken taken
    obtain ⟨used, tested, found, exact⟩ := again
    rw [all] at asked
    refine ⟨_, _, _, Poll.Exact.after_look [] arrivals rejected (fun _ sorted other met => ?_) asked
      exact⟩
    -- The first arrival comes after the nap, and so does every later one.
    cases arrivals with
    | nil => cases met
    | cons arrival later =>
      have first := distant arrival rfl
      rcases List.mem_cons.mp met with rfl | met
      · omega
      · have order := (List.pairwise_cons.mp sorted).1 other met
        omega
  | arrival tap arrival later found buffer taken waits soon again =>
    rw [pollUntil_arrival taken waits soon]
    have asked := pollAsking_arrival taken waits soon later
    cases (Reader.answer_eq_none.mp waits).1
    obtain ⟨rfl, rejected, all⟩ := rejected_of_taken taken
    obtain ⟨used, tested, found, exact⟩ := again
    rw [all] at asked
    refine ⟨_, _, _, Poll.Exact.after_look [arrival] later rejected
      (fun since sorted other met => ?_) asked exact⟩
    have first := since other (by simp [met])
    have order := (List.pairwise_cons.mp sorted).1 other met
    exact max_le first order

/-- A frame that is there when the poll begins, and is not rejected, is not waited for. -/
theorem pollUntil_of_buffered {arrivals : List Arrival} {frame : Bytes}
    (buffered : frame ∈ tap.reader.buffer) (kept : accepts frame ≠ .ok false) :
    (pollUntil accepts deadline tap arrivals).missed = arrivals ∧
      (pollUntil accepts deadline tap arrivals).tap.now = tap.now := by
  rcases taken : Reader.takeFirst accepts tap.reader.buffer with ⟨fault | _ | found, buffer⟩
  · rw [pollUntil_ends taken rfl]
    exact ⟨rfl, rfl⟩
  · exact absurd ((rejected_of_taken taken).2.1 frame buffered) kept
  · rw [pollUntil_ends taken rfl]
    exact ⟨rfl, rfl⟩

theorem pollFor_of_ok {millis : Json}
    (counts : tap.clock.deadlineOfMillis tap.now millis = .ok deadline)
    (accepts : Bytes → Except Fault Bool) (arrivals : List Arrival) :
    tap.pollFor millis accepts arrivals = tap.pollTo deadline accepts arrivals := by
  rw [pollFor, counts]

theorem pollFor_of_error {millis : Json} {fault : Fault}
    (fails : tap.clock.deadlineOfMillis tap.now millis = .error fault)
    (accepts : Bytes → Except Fault Bool) (arrivals : List Arrival) :
    tap.pollFor millis accepts arrivals = (.error fault, tap.arrive arrivals) := by
  rw [pollFor, fails]

end Tap

namespace Reader

/-- A search that is still waiting goes, with its next look, through the frames that were buffered
when it began and those that were appended since; it ends with its first match, or, if it has rejected
them all, at its deadline or when its clock takes no wait that long. A poll of a tap is the same among
the arrivals that come before it ends. On an exact clock its deadline is its number of milliseconds
after its start; a number that is too large for seconds of 64 bits is refused at once. -/
theorem poll_firstMatch :
    (∀ (scene : Scene) (accepts : Bytes → Except Fault Bool) (deadline : Int) (moves : List Move),
      let place := scene.searches.length
      let waiting := scene.run (.search accepts deadline :: moves)
      let looked := waiting.move (.look place)
      (∀ other, .look other ∈ moves → other = place) →
      waiting.searches[place]? = some ⟨accepts, deadline, none⟩ →
      ∃ appended tested found answer,
        waiting.arrived = scene.arrived ++ appended ∧
        FirstMatch accepts (scene.reader.buffer ++ appended) tested found looked.reader.buffer ∧
        looked.arrived = waiting.arrived ∧
        looked.removed = scene.removed ++ tested.map (Removal.mk place) ∧
        looked.searches[place]? = some ⟨accepts, deadline, answer⟩ ∧
        Answers scene.clock deadline waiting.now found answer) ∧
    (∀ (tap : Tap) (millis deadline : Int) (accepts : Bytes → Except Fault Bool)
      (arrivals : List Arrival),
      tap.clock.deadlineOfMillis tap.now (.integer millis) = .ok deadline →
      let poll := Tap.pollUntil accepts deadline tap arrivals
      tap.pollFor (.integer millis) accepts arrivals = (poll.result, poll.tap.arrive poll.missed) ∧
      ∃ used tested found, Tap.Poll.Exact accepts deadline tap arrivals used tested found poll ∧
        ∀ frame ∈ tap.reader.buffer, accepts frame ≠ .ok false →
          used = [] ∧ poll.tap.now = tap.now) ∧
    (∀ (tap : Tap) (millis : Json) (fault : Fault) (accepts : Bytes → Except Fault Bool)
      (arrivals : List Arrival), tap.clock.deadlineOfMillis tap.now millis = .error fault →
      tap.pollFor millis accepts arrivals = (.error fault, tap.arrive arrivals)) ∧
    ∀ start millis : Int,
      Clock.exact.deadlineOfMillis start (.integer millis) = .ok (start + 1000 * millis) ∨
        2 ^ 1000 ≤ |millis| ∧ Clock.exact.deadlineOfMillis start (.integer millis) =
          .error (@Fault.longWait .seconds) := by
  refine ⟨?_, ?_, ?_, Clock.deadlineOfMillis_exact⟩
  · intro scene accepts deadline moves place waiting looked alone unanswered
    have begun := scene.awaits_search accepts deadline
    obtain ⟨appended, tested, awaits⟩ := begun.run alone unanswered
    obtain ⟨tested, found, answer, search, arrived, removed, answered, answers⟩ := awaits.look
    exact ⟨appended, tested, found, answer, awaits.arrived, search, arrived, removed, answered,
      answers⟩
  · intro tap millis deadline accepts arrivals counts poll
    obtain ⟨used, tested, found, exact⟩ := Tap.exists_exact accepts deadline tap arrivals
    refine ⟨Tap.pollFor_of_ok counts accepts arrivals, used, tested, found, exact, ?_⟩
    intro frame buffered kept
    obtain ⟨missed, now⟩ := Tap.pollUntil_of_buffered buffered kept
    have split := exact.split
    rw [missed] at split
    exact ⟨List.append_left_eq_self.mp split.symm, now⟩
  · intro tap millis fault accepts arrivals fails
    exact Tap.pollFor_of_error fails accepts arrivals

def wanted (frame : Bytes) : Except Fault Bool :=
  .ok (frame.length == 2)

def busyScene : Scene :=
  (Scene.opening .exact 7 2 100).run [.start, .enter, .read (.frame [1])]

def busyMoves : List Move :=
  [.look 0, .read (.frame [2, 3, 4]), .read (.frame [5])]

def busyTap : Tap where
  reader := busyScene.reader
  now := 100
  clock := .exact

theorem poll_firstMatch_busy :
    (∀ other, .look other ∈ busyMoves → other = 0) ∧
      (busyScene.run (.search wanted 200 :: busyMoves)).searches[0]? = some ⟨wanted, 200, none⟩ ∧
      (∃ appended tested found, FirstMatch wanted ([[1]] ++ appended) tested found [[5]]) ∧
      Clock.exact.deadlineOfMillis 100 (.integer (-5)) = .ok (-4900) ∧
      (∃ used tested found, Tap.Poll.Exact wanted (-4900) busyTap [⟨101, [6, 7]⟩] used tested found
        (Tap.pollUntil wanted (-4900) busyTap [⟨101, [6, 7]⟩])) ∧
      Clock.exact.deadlineOfMillis 100 .null = .error .wrongKind ∧
        busyTap.pollFor .null wanted [] = (.error .wrongKind, busyTap) := by
  have alone : ∀ other, .look other ∈ busyMoves → other = 0 := by
    simp [busyMoves]
  have waiting : (busyScene.run (.search wanted 200 :: busyMoves)).searches[0]? =
      some ⟨wanted, 200, none⟩ := rfl
  obtain ⟨searches, polls, refusals, spans⟩ := poll_firstMatch
  obtain ⟨appended, tested, found, answer, -, search, -⟩ :=
    searches busyScene wanted 200 busyMoves alone waiting
  have counts := (spans 100 (-5)).resolve_right fun large => absurd large.1 (by decide +kernel)
  obtain ⟨-, used, asked, answered, exact, -⟩ :=
    polls busyTap (-5) _ wanted [⟨101, [6, 7]⟩] counts
  have refused := refusals busyTap .null .wrongKind wanted [] rfl
  exact ⟨alone, waiting, ⟨appended, tested, found, search⟩, counts, ⟨used, asked, answered, exact⟩,
    rfl, refused⟩

def waitingTap (buffer : List Bytes) : Tap where
  reader := { descriptor := 7, mtu := 2, buffer }
  clock := .exact

/-- A frame that is buffered and accepted is not given back where the milliseconds are too many for
seconds of 64 bits, and one that comes later is not waited for where they are too many for the
clock. -/
theorem poll_refused :
    wanted [1, 2] = .ok true ∧
      (waitingTap [[1, 2]]).pollFor (.integer (10 ^ 400)) wanted [] =
        (.error (@Fault.longWait .seconds), waitingTap [[1, 2]]) ∧
      ((waitingTap []).pollFor (.integer (10 ^ 13)) wanted [⟨1, [1, 2]⟩]).1 =
        .error (@Fault.longWait .system) := by
  have refused : Clock.exact.deadlineOfMillis 0 (.integer (10 ^ 400)) =
      .error (@Fault.longWait .seconds) := by
    rcases Clock.deadlineOfMillis_exact 0 (10 ^ 400) with counts | ⟨-, refused⟩
    · exact absurd (congrArg Except.isOk counts) (by decide +kernel)
    · exact refused
  have counts : Clock.exact.deadlineOfMillis 0 (.integer (10 ^ 13)) = .ok (0 + 1000 * 10 ^ 13) :=
    (Clock.deadlineOfMillis_exact 0 (10 ^ 13)).resolve_right fun large =>
      absurd large.1 (by decide +kernel)
  refine ⟨rfl, ?_, ?_⟩
  · exact @Tap.pollFor_of_error (waitingTap [[1, 2]]) _ _ refused wanted []
  · rw [@Tap.pollFor_of_ok _ (waitingTap []) _ counts]
    exact congrArg Tap.Poll.result (Tap.pollUntil_ends rfl rfl _)

end Reader

end ThreadLab
