import ThreadLab.Proofs.Polling

namespace ThreadLab.Polling

variable {σ : Type}

def stateAfter (evaluate : σ → Evaluation σ) (state : σ) : Nat → σ
  | 0 => state
  | count + 1 => (evaluate (stateAfter evaluate state count)).state

def answerAt (evaluate : σ → Evaluation σ) (state : σ) (count : Nat) : Except Fault Bool :=
  (evaluate (stateAfter evaluate state count)).answer

namespace Schedule

variable {schedule : Schedule σ} {deadline : Int} {last count : Nat}

theorem evaluate_after (schedule : Schedule σ) (count : Nat) :
    (schedule.after count).evaluate = schedule.evaluate := by
  induction count with
  | zero => rfl
  | succ count ih => exact ih

theorem rest_after (schedule : Schedule σ) (count : Nat) :
    (schedule.after count).rest = schedule.rest := by
  induction count with
  | zero => rfl
  | succ count ih => exact ih

/-- Whether naps leave the condition as it is. -/
def Restless (schedule : Schedule σ) : Prop :=
  ∀ nap state, schedule.rest nap state = state

theorem state_after (restless : schedule.Restless) (count : Nat) :
    (schedule.after count).state = stateAfter schedule.evaluate schedule.state count := by
  induction count with
  | zero => rfl
  | succ count ih =>
    change (schedule.after count).rest _
      ((schedule.after count).evaluate (schedule.after count).state).state = _
    rw [rest_after, restless, evaluate_after, ih]
    rfl

theorem evaluation_eq (restless : schedule.Restless) (count : Nat) :
    schedule.evaluation count =
      schedule.evaluate (stateAfter schedule.evaluate schedule.state count) := by
  change (schedule.after count).evaluate (schedule.after count).state = _
  rw [evaluate_after, state_after restless]

def withDeadline (schedule : Schedule σ) (deadline : Int) : Schedule σ :=
  { schedule with deadline }

theorem evaluation_withDeadline (restless : schedule.Restless) (count : Nat) :
    (schedule.withDeadline deadline).evaluation count = schedule.evaluation count := by
  have other : (schedule.withDeadline deadline).Restless := restless
  rw [evaluation_eq restless, evaluation_eq other]
  rfl

theorem finish_next (schedule : Schedule σ) (count : Nat) : schedule.finish (count + 1) =
    schedule.finish count + schedule.nap count + (schedule.evaluation (count + 1)).duration := by
  rw [finish_eq, start_after_succ]

theorem nap_whole (early : schedule.finish count < schedule.deadline)
    (next : schedule.finish (count + 1) < schedule.deadline) :
    schedule.nap count = 500000 ∧ schedule.finish count + 500000 < schedule.deadline := by
  have cut := (nap_eq early).2
  rw [finish_next] at next
  omega

theorem finish_withDeadline (restless : schedule.Restless) (later : schedule.deadline ≤ deadline)
    (early : ∀ before < last, schedule.finish before < schedule.deadline) (inside : count < last) :
    (schedule.withDeadline deadline).finish count = schedule.finish count := by
  induction count with
  | zero => rfl
  | succ count ih =>
    have same := ih (by omega)
    have whole := nap_whole (early count (by omega)) (early (count + 1) inside)
    have nap : (schedule.withDeadline deadline).nap count = schedule.nap count := by
      have cut := (schedule.withDeadline deadline).nap_eq_min count
      change _ = min 500000 (max 0 (deadline - _)) at cut
      rw [same] at cut
      omega
    rw [finish_next, finish_next, same, nap, evaluation_withDeadline restless]

theorem nap_le_withDeadline (restless : schedule.Restless) (later : schedule.deadline ≤ deadline)
    (early : ∀ before < last, schedule.finish before < schedule.deadline) (inside : count < last) :
    schedule.nap count ≤ (schedule.withDeadline deadline).nap count := by
  have same := finish_withDeadline restless later early inside
  have cut := schedule.nap_eq_min count
  have cut' := (schedule.withDeadline deadline).nap_eq_min count
  change _ = min 500000 (max 0 (deadline - _)) at cut'
  rw [same] at cut'
  omega

theorem nap_withDeadline (restless : schedule.Restless) (later : schedule.deadline ≤ deadline)
    (early : ∀ before < last, schedule.finish before < schedule.deadline)
    (inside : count + 1 < last) :
    (schedule.withDeadline deadline).nap count = schedule.nap count := by
  have whole := nap_whole (early count (by omega)) (early (count + 1) inside)
  have least := nap_le_withDeadline restless later early (Nat.lt_of_succ_lt inside)
  have most := (schedule.withDeadline deadline).nap_eq_min count
  omega

end Schedule

/-- The naps of two waits that differ in the last one at most, which the second may have longer. -/
inductive Stretched : List Nat → List Nat → Prop
  | none : Stretched [] []
  | last (front : List Nat) {nap longer : Nat} (stretched : nap ≤ longer) :
    Stretched (front ++ [nap]) (front ++ [longer])

open Schedule

theorem stretched_naps {schedule : Schedule σ} {deadline : Int} {last : Nat}
    (restless : schedule.Restless) (later : schedule.deadline ≤ deadline)
    (early : ∀ before < last, schedule.finish before < schedule.deadline) :
    Stretched ((List.range last).map schedule.nap)
      ((List.range last).map (schedule.withDeadline deadline).nap) := by
  cases last with
  | zero => exact .none
  | succ last =>
    have front : (List.range last).map (schedule.withDeadline deadline).nap =
        (List.range last).map schedule.nap := by
      apply List.map_congr_left
      intro count member
      exact nap_withDeadline restless later early (Nat.succ_lt_succ (List.mem_range.mp member))
    rw [List.range_succ, List.map_append, List.map_append, front]
    exact .last _ (nap_le_withDeadline restless later early (Nat.lt_succ_self last))

section

variable {schedule : Schedule σ} {limit limit' : Duration} {outcome outcome' : Outcome σ}
  {deadline : Int} {last last' : Nat}

theorem Ending.early (ending : Ending schedule limit outcome last) :
    ∀ count < last, schedule.finish count < schedule.deadline :=
  fun count earlier => (ending.course.before count earlier).2

theorem Ending.last_le (ending : Ending schedule limit outcome last)
    (restless : schedule.Restless) (later : schedule.deadline ≤ deadline)
    (ending' : Ending (schedule.withDeadline deadline) limit' outcome' last') : last ≤ last' := by
  by_contra above
  have earlier := not_le.mp above
  obtain ⟨answer, early⟩ := ending.course.before last' earlier
  have ends := ending'.least.1
  rw [Set.mem_ofPred_eq, Ends, evaluation_withDeadline restless,
    finish_withDeadline restless later ending.early earlier] at ends
  exact absurd (ends answer) (not_le.mpr (early.trans_le later))

theorem Ending.last_eq (ending : Ending schedule limit outcome last)
    (restless : schedule.Restless) (later : schedule.deadline ≤ deadline)
    (decided : (schedule.evaluation last).answer ≠ .ok false)
    (ending' : Ending (schedule.withDeadline deadline) limit' outcome' last') : last' = last := by
  have ends : (schedule.withDeadline deadline).Ends last := by
    intro answer
    rw [evaluation_withDeadline restless] at answer
    exact absurd answer decided
  exact le_antisymm (ending'.least.2 ends) (ending.last_le restless later ending')

theorem Ending.same (ending : Ending schedule limit outcome last)
    (restless : schedule.Restless) (later : schedule.deadline ≤ deadline)
    (decided : (schedule.evaluation last).answer ≠ .ok false)
    (ending' : Ending (schedule.withDeadline deadline) limit' outcome' last') :
    outcome'.result = outcome.result ∧ outcome'.evaluations = outcome.evaluations ∧
      Stretched outcome.naps outcome'.naps := by
  have same := ending.last_eq restless later decided ending'
  subst same
  refine ⟨?_, ?_, ?_⟩
  · rw [ending.result, ending'.result, evaluation_withDeadline restless]
    rcases answer : (schedule.evaluation last').answer with fault | _ | _
    · rfl
    · exact absurd answer decided
    · rfl
  · rw [ending.evaluations, ending'.evaluations]
  · rw [ending.naps, ending'.naps]
    exact stretched_naps restless later ending.early

end

def EndedByCondition (evaluate : σ → Evaluation σ) (state : σ) (outcome : Outcome σ) : Prop :=
  outcome.result = .ok () ∨
    ∃ fault, outcome.result = .error fault ∧
      answerAt evaluate state (outcome.evaluations - 1) = .error fault

def TimedOut (outcome : Outcome σ) : Prop :=
  ∃ wait, outcome.result = .error (.expired wait)

theorem Ending.decided {schedule : Schedule σ} {limit : Duration} {outcome : Outcome σ} {last : Nat}
    (ending : Ending schedule limit outcome last) (restless : schedule.Restless)
    (ended : EndedByCondition schedule.evaluate schedule.state outcome) :
    (schedule.evaluation last).answer ≠ .ok false := by
  intro answer
  have result := ending.result
  rw [answer] at result
  rcases ended with returned | ⟨fault, -, failed⟩
  · rw [returned] at result
    cases result
  · rw [ending.evaluations, Nat.add_sub_cancel, answerAt, ← evaluation_eq restless, answer] at failed
    cases failed

/-- If a condition ends a wait, it ends every longer wait in the same evaluation and in the same way,
and at most the nap before that is longer. If a wait is timed out, every shorter one is timed out
too, after no more evaluations. -/
structure Outlasts (evaluate : σ → Evaluation σ) (state : σ) (short long : Outcome σ) : Prop where
  ended : EndedByCondition evaluate state short → long.result = short.result ∧
    long.evaluations = short.evaluations ∧ Stretched short.naps long.naps
  timedOut : TimedOut long → TimedOut short ∧ short.evaluations ≤ long.evaluations

theorem outlasts_of_later (evaluate : σ → Evaluation σ) {start deadline later : Int} (state : σ)
    (limit longer : Duration) (ordered : deadline ≤ later) :
    Outlasts evaluate state
      (Schedule.wait ⟨evaluate, fun _ => id, deadline, start, state⟩ limit)
      (Schedule.wait ⟨evaluate, fun _ => id, later, start, state⟩ longer) := by
  let schedule : Schedule σ := ⟨evaluate, fun _ => id, deadline, start, state⟩
  have restless : schedule.Restless := fun _ _ => rfl
  obtain ⟨last, ending⟩ := exists_ending schedule limit
  obtain ⟨last', ending'⟩ := exists_ending (schedule.withDeadline later) longer
  constructor
  case ended =>
    intro ended
    exact ending.same restless ordered (ending.decided restless ended) ending'
  case timedOut =>
    rintro ⟨wait, timedOut⟩
    constructor
    · by_cases decided : (schedule.evaluation last).answer = .ok false
      · exact ⟨.condition limit, ending.result.trans (by rw [decided]; rfl)⟩
      · have same := (ending.same restless ordered decided ending').1
        exact ⟨wait, same.symm.trans timedOut⟩
    · change (schedule.wait limit).evaluations ≤ ((schedule.withDeadline later).wait longer).evaluations
      rw [ending.evaluations, ending'.evaluations]
      exact Nat.succ_le_succ (ending.last_le restless ordered ending')

/-- A longer limit does no harm on any clock that has no earlier deadlines for longer limits, be it
exact or moved by hand. -/
theorem waitFor_longer :
    Clock.exact.Orderly ∧ Clock.stepped.Orderly ∧
      ∀ {clock : Clock}, clock.Orderly → ∀ (evaluate : σ → Evaluation σ) (start : Int) (state : σ)
        {limit longer : Duration}, Duration.ofMicros limit.micros = .ok limit →
          Duration.ofMicros longer.micros = .ok longer → limit.micros ≤ longer.micros →
            Outlasts evaluate state (waitFor evaluate (fun _ => id) limit start state clock)
              (waitFor evaluate (fun _ => id) longer start state clock) := by
  refine ⟨Clock.orderly_exact, Clock.orderly_stepped, ?_⟩
  intro clock orderly evaluate start state limit longer given given' ordered
  obtain ⟨deadline, later, counts, counts', order⟩ :=
    orderly start limit longer given given' ordered
  rw [waitFor_eq_wait evaluate _ counts, waitFor_eq_wait evaluate _ counts']
  exact outlasts_of_later evaluate state limit longer order

def slowSteps : List Step := [⟨700000, .ok false⟩, ⟨400000, .ok true⟩]

theorem waitFor_slow : waitFor scripted (fun _ => id) (.ofMillis 1000) 5 slowSteps .exact =
    ⟨.ok (), 2, [300000], 1400005, [⟨400000, .ok true⟩]⟩ := by
  let schedule : Schedule (List Step) := ⟨scripted, fun _ => id, 5 + 1000000, 5, slowSteps⟩
  have goes : ¬schedule.Ends 0 := fun late => absurd (late rfl) (by decide)
  have ends : schedule.next.Ends 0 := nofun
  rw [waitFor_eq_wait scripted _ (Clock.deadline_exact 5 _)]
  change schedule.wait (.ofMillis 1000) = _
  have nap : schedule.firstNap = 300000 := by decide
  have finish : schedule.next.firstFinish = 1400005 := by decide
  rw [wait_of_goes _ goes, wait_of_ends _ ends, nap, finish]
  rfl

theorem waitFor_longer_slow :
    let short := waitFor scripted (fun _ => id) (.ofMillis 1000) 5 slowSteps .stepped
    let long := waitFor scripted (fun _ => id) (.ofMillis 1500) 5 slowSteps .stepped
    EndedByCondition scripted slowSteps short ∧ long.result = .ok () ∧ long.evaluations = 2 ∧
      Stretched [300000] long.naps := by
  intro short long
  have outcome : short = ⟨.ok (), 2, [300000], 1400005, [⟨400000, .ok true⟩]⟩ :=
    (waitFor_stepped scripted _ (by decide) 5 slowSteps).trans waitFor_slow
  have ended : EndedByCondition scripted slowSteps short := .inl (congrArg Outcome.result outcome)
  have ordered : (Duration.ofMillis 1000).micros ≤ (Duration.ofMillis 1500).micros := by decide
  obtain ⟨-, orderly, longer⟩ := @waitFor_longer (List Step)
  have same := (longer orderly scripted 5 slowSteps rfl rfl ordered).ended ended
  change long.result = short.result ∧ long.evaluations = short.evaluations ∧
    Stretched short.naps long.naps at same
  rw [outcome] at same
  exact ⟨ended, same⟩

end ThreadLab.Polling
