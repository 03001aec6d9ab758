import Mathlib.Algebra.BigOperators.Group.List.Basic
import Mathlib.Order.Bounds.Defs
import ThreadLab.Polling
import ThreadLab.Proofs.Clock

namespace ThreadLab.Polling

structure Schedule (σ : Type) where
  evaluate : σ → Evaluation σ
  rest : Nat → σ → σ
  deadline : Int
  start : Int
  state : σ

namespace Schedule

variable {σ : Type}

def first (schedule : Schedule σ) : Evaluation σ :=
  schedule.evaluate schedule.state

def firstFinish (schedule : Schedule σ) : Int :=
  schedule.start + schedule.first.duration

def firstNap (schedule : Schedule σ) : Nat :=
  min interval (schedule.deadline - schedule.firstFinish).toNat

def next (schedule : Schedule σ) : Schedule σ :=
  { schedule with
    start := schedule.firstFinish + schedule.firstNap
    state := schedule.rest schedule.firstNap schedule.first.state }

/-- What is left after so many evaluations, as if none of them could end the wait. -/
def after (schedule : Schedule σ) : Nat → Schedule σ
  | 0 => schedule
  | count + 1 => (schedule.after count).next

def evaluation (schedule : Schedule σ) (count : Nat) : Evaluation σ :=
  (schedule.after count).first

def finish (schedule : Schedule σ) (count : Nat) : Int :=
  (schedule.after count).firstFinish

def nap (schedule : Schedule σ) (count : Nat) : Nat :=
  (schedule.after count).firstNap

/-- Whether an evaluation ends the wait: it fails, or answers "yes", or ends when it is too late. -/
def Ends (schedule : Schedule σ) (count : Nat) : Prop :=
  (schedule.evaluation count).answer = .ok false → schedule.deadline ≤ schedule.finish count

def wait (schedule : Schedule σ) (limit : Duration) : Outcome σ :=
  waitUntil schedule.evaluate schedule.rest limit schedule.deadline schedule.start schedule.state

def verdict (limit : Duration) : Except Fault Bool → Except Fault Unit
  | .error fault => .error fault
  | .ok true => .ok ()
  | .ok false => .error (.expired (.condition limit))

theorem wait_of_ends {schedule : Schedule σ} (limit : Duration) (ends : schedule.Ends 0) :
    schedule.wait limit =
      ⟨verdict limit schedule.first.answer, 1, [], schedule.firstFinish, schedule.first.state⟩ := by
  change schedule.first.answer = .ok false → schedule.deadline ≤ schedule.firstFinish at ends
  rw [wait, waitUntil]
  change (match schedule.first.answer with | .error _ => _ | .ok true => _ | .ok false => _) = _
  rcases answer : schedule.first.answer with fault | _ | _
  · rfl
  · exact dif_pos (ends answer)
  · rfl

theorem not_ends {schedule : Schedule σ} {count : Nat} (goes : ¬schedule.Ends count) :
    (schedule.evaluation count).answer = .ok false ∧
      schedule.finish count < schedule.deadline := by
  rw [Ends, Classical.not_imp] at goes
  exact ⟨goes.1, not_le.mp goes.2⟩

theorem wait_of_goes {schedule : Schedule σ} (limit : Duration) (goes : ¬schedule.Ends 0) :
    schedule.wait limit =
      { schedule.next.wait limit with
        evaluations := (schedule.next.wait limit).evaluations + 1
        naps := schedule.firstNap :: (schedule.next.wait limit).naps } := by
  obtain ⟨answer, early⟩ := not_ends goes
  change schedule.first.answer = .ok false at answer
  rw [wait, waitUntil]
  change (match schedule.first.answer with | .error _ => _ | .ok true => _ | .ok false => _) = _
  rw [answer]
  exact dif_neg (not_le.mpr early)

theorem after_succ (schedule : Schedule σ) (count : Nat) :
    schedule.after (count + 1) = schedule.next.after count := by
  induction count with
  | zero => rfl
  | succ count ih => rw [after, ih, after]

theorem deadline_after (schedule : Schedule σ) (count : Nat) :
    (schedule.after count).deadline = schedule.deadline := by
  induction count with
  | zero => rfl
  | succ count ih => exact ih

theorem evaluation_succ (schedule : Schedule σ) (count : Nat) :
    schedule.evaluation (count + 1) = schedule.next.evaluation count := by
  rw [evaluation, after_succ, evaluation]

theorem finish_succ (schedule : Schedule σ) (count : Nat) :
    schedule.finish (count + 1) = schedule.next.finish count := by
  rw [finish, after_succ, finish]

theorem nap_succ (schedule : Schedule σ) (count : Nat) :
    schedule.nap (count + 1) = schedule.next.nap count := by
  rw [nap, after_succ, nap]

theorem ends_succ (schedule : Schedule σ) (count : Nat) :
    schedule.Ends (count + 1) ↔ schedule.next.Ends count := by
  rw [Ends, evaluation_succ, finish_succ]
  rfl

theorem nap_eq_min (schedule : Schedule σ) (count : Nat) : (schedule.nap count : Int) =
    min 500000 (max 0 (schedule.deadline - schedule.finish count)) := by
  have length : interval = 500000 := by decide
  have same := schedule.deadline_after count
  rw [finish, nap, firstNap, length, same]
  omega

theorem nap_eq {schedule : Schedule σ} {count : Nat} (early : schedule.finish count < schedule.deadline) :
    0 < schedule.nap count ∧
      (schedule.nap count : Int) = min 500000 (schedule.deadline - schedule.finish count) := by
  have cut := schedule.nap_eq_min count
  omega

theorem start_after_succ (schedule : Schedule σ) (count : Nat) :
    (schedule.after (count + 1)).start = schedule.finish count + schedule.nap count := rfl

theorem start_after_le {schedule : Schedule σ} {count : Nat}
    (early : ∀ before < count, schedule.finish before < schedule.deadline) :
    (schedule.after count).start ≤ max schedule.start schedule.deadline := by
  cases count with
  | zero => exact le_max_left _ _
  | succ count =>
    have cut := (nap_eq (early count (Nat.lt_succ_self count))).2
    rw [start_after_succ]
    omega

theorem finish_eq (schedule : Schedule σ) (count : Nat) :
    schedule.finish count = (schedule.after count).start + (schedule.evaluation count).duration :=
  rfl

theorem finish_eq_sum (schedule : Schedule σ) (count : Nat) :
    schedule.finish count = schedule.start +
      ((List.range (count + 1)).map fun place => (schedule.evaluation place).duration).sum +
      ((List.range count).map schedule.nap).sum := by
  induction count with
  | zero => simp [finish_eq, after]
  | succ count ih =>
    rw [finish_eq, start_after_succ, ih]
    simp only [List.range_succ, List.map_append, List.sum_append, List.map_singleton,
      List.sum_singleton]
    omega

theorem scheduleInduction {motive : Schedule σ → Prop}
    (ends : ∀ schedule, schedule.Ends 0 → motive schedule)
    (goes : ∀ schedule, ¬schedule.Ends 0 → motive schedule.next → motive schedule)
    (schedule : Schedule σ) : motive schedule := by
  by_cases ended : schedule.Ends 0
  · exact ends schedule ended
  · exact goes schedule ended (scheduleInduction ends goes schedule.next)
termination_by (schedule.deadline - schedule.start).toNat
decreasing_by
  -- The nap that follows an early "no" is not empty, so less time is left after it.
  have early := (not_ends ended).2
  have positive := (nap_eq early).1
  change (schedule.deadline - (schedule.finish 0 + schedule.nap 0)).toNat < _
  have began : schedule.finish 0 = schedule.start + schedule.first.duration := rfl
  omega

end Schedule

/-- How a wait ends: with the evaluation `last`, counted from zero, which is the first that can. -/
structure Ending {σ : Type} (schedule : Schedule σ) (limit : Duration) (outcome : Outcome σ)
    (last : Nat) : Prop where
  least : IsLeast {count | schedule.Ends count} last
  evaluations : outcome.evaluations = last + 1
  result : outcome.result = Schedule.verdict limit (schedule.evaluation last).answer
  naps : outcome.naps = (List.range last).map schedule.nap
  finish : outcome.finish = schedule.finish last
  state : outcome.state = (schedule.evaluation last).state

/-- How a wait ends and how its time passes. All evaluations before the last answer "no" before the
deadline, and of the time of the wait only the last evaluation can lie beyond it. -/
structure Course {σ : Type} (schedule : Schedule σ) (limit : Duration) (outcome : Outcome σ)
    (last : Nat) : Prop extends Ending schedule limit outcome last where
  before : ∀ count < last, (schedule.evaluation count).answer = .ok false ∧
    schedule.finish count < schedule.deadline
  cut : ∀ count < last, 0 < schedule.nap count ∧
    (schedule.nap count : Int) = min 500000 (schedule.deadline - schedule.finish count)
  elapsed : outcome.finish - schedule.start =
    ((List.range (last + 1)).map fun count => (schedule.evaluation count).duration).sum +
      outcome.naps.sum
  bounded : outcome.finish - schedule.start ≤
    max (schedule.deadline - schedule.start) 0 + (schedule.evaluation last).duration
  prompt : (∀ count ≤ last, (schedule.evaluation count).duration ≤ 500000) →
    outcome.finish - schedule.start ≤ max (schedule.deadline - schedule.start) 0 + 500000

theorem exists_ending {σ : Type} (schedule : Schedule σ) (limit : Duration) :
    ∃ last, Ending schedule limit (schedule.wait limit) last := by
  induction schedule using Schedule.scheduleInduction with
  | ends schedule ended =>
    refine ⟨0, ?_⟩
    rw [Schedule.wait_of_ends limit ended]
    exact ⟨⟨ended, fun _ _ => Nat.zero_le _⟩, rfl, rfl, rfl, rfl, rfl⟩
  | goes schedule going ih =>
    obtain ⟨last, ending⟩ := ih
    rw [Schedule.wait_of_goes limit going]
    refine ⟨last + 1, ⟨⟨?_, ?_⟩, ?_, ?_, ?_, ?_, ?_⟩⟩
    · exact (schedule.ends_succ last).mpr ending.least.1
    · intro count ended
      cases count with
      | zero => exact absurd ended going
      | succ count => exact Nat.succ_le_succ (ending.least.2 ((schedule.ends_succ count).mp ended))
    · exact congrArg (· + 1) ending.evaluations
    · rw [schedule.evaluation_succ]
      exact ending.result
    · have rest : schedule.nap ∘ Nat.succ = schedule.next.nap := funext schedule.nap_succ
      rw [List.range_succ_eq_map, List.map_cons, List.map_map, rest, ← ending.naps]
      rfl
    · rw [schedule.finish_succ]
      exact ending.finish
    · rw [schedule.evaluation_succ]
      exact ending.state

theorem Ending.course {σ : Type} {schedule : Schedule σ} {limit : Duration} {outcome : Outcome σ}
    {last : Nat} (ending : Ending schedule limit outcome last) :
    Course schedule limit outcome last := by
  have before : ∀ count < last, (schedule.evaluation count).answer = .ok false ∧
      schedule.finish count < schedule.deadline := by
    intro count earlier
    exact Schedule.not_ends fun ended => Nat.not_le.mpr earlier (ending.least.2 ended)
  -- The last evaluation begins at the deadline at the latest: only its own time lies beyond.
  have begins := Schedule.start_after_le fun count earlier => (before count earlier).2
  have bounded : outcome.finish - schedule.start ≤
      max (schedule.deadline - schedule.start) 0 + (schedule.evaluation last).duration := by
    rw [ending.finish, schedule.finish_eq]
    omega
  refine ⟨ending, before, ?_, ?_, bounded, ?_⟩
  · intro count earlier
    exact Schedule.nap_eq (before count earlier).2
  · rw [ending.finish, schedule.finish_eq_sum, ending.naps]
    omega
  · intro short
    have last := short last le_rfl
    omega

theorem waitFor_eq_wait {σ : Type} (evaluate : σ → Evaluation σ) (rest : Nat → σ → σ)
    {limit : Duration} {start deadline : Int} {clock : Clock}
    (counts : clock.deadline start (Rat.ofInt limit.micros) = .ok deadline) (state : σ) :
    waitFor evaluate rest limit start state clock =
      Schedule.wait ⟨evaluate, rest, deadline, start, state⟩ limit := by
  rw [waitFor, counts]
  rfl

/-- Every wait takes its course until its limit is over. -/
theorem waitFor_course {σ : Type} (evaluate : σ → Evaluation σ) (rest : Nat → σ → σ)
    (limit : Duration) (start : Int) (state : σ) :
    ∃ last, Course ⟨evaluate, rest, start + limit.micros, start, state⟩ limit
      (waitFor evaluate rest limit start state .exact) last := by
  obtain ⟨last, ending⟩ :=
    exists_ending ⟨evaluate, rest, start + limit.micros, start, state⟩ limit
  rw [waitFor_eq_wait evaluate rest (Clock.deadline_exact start limit.micros)]
  exact ⟨last, ending.course⟩

theorem waitFor_stepped {σ : Type} (evaluate : σ → Evaluation σ) (rest : Nat → σ → σ)
    {limit : Duration} (short : |limit.micros| < 2 ^ 32 * 1000000) (start : Int) (state : σ) :
    waitFor evaluate rest limit start state .stepped =
      waitFor evaluate rest limit start state .exact := by
  rw [waitFor, waitFor, Clock.deadline_stepped short]

end ThreadLab.Polling
