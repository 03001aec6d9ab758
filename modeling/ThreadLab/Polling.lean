import ThreadLab.Fault
import ThreadLab.Settings

namespace ThreadLab.Polling

structure Evaluation (σ : Type) where
  answer : Except Fault Bool
  duration : Nat
  state : σ

/-- How a wait ended: `evaluations` counts how often the condition was evaluated, and `naps` are
the times slept in between. -/
structure Outcome (σ : Type) where
  result : Except Fault Unit
  evaluations : Nat
  naps : List Nat
  finish : Int
  state : σ

def interval : Nat := Settings.pollingInterval.micros.toNat

theorem interval_pos : 0 < interval := by decide

variable {σ : Type} (evaluate : σ → Evaluation σ) (rest : Nat → σ → σ) (limit : Duration)

/-- The wait from the instant `now` on; `rest` is told of each nap. -/
def waitUntil (deadline now : Int) (state : σ) : Outcome σ :=
  let evaluation := evaluate state
  let finish := now + evaluation.duration
  match evaluation.answer with
  | .error fault => ⟨.error fault, 1, [], finish, evaluation.state⟩
  | .ok true => ⟨.ok (), 1, [], finish, evaluation.state⟩
  | .ok false =>
    if _ : deadline ≤ finish then
      ⟨.error (.expired (.condition limit)), 1, [], finish, evaluation.state⟩
    else
      let nap := min interval (deadline - finish).toNat
      let later := waitUntil deadline (finish + nap) (rest nap evaluation.state)
      { later with evaluations := later.evaluations + 1, naps := nap :: later.naps }
termination_by (deadline - now).toNat
decreasing_by
  have := interval_pos
  omega

def waitFor (start : Int) (state : σ) (clock : Clock := .stepped) : Outcome σ :=
  match clock.deadline start (Rat.ofInt limit.micros) with
  | .ok deadline => waitUntil evaluate rest limit deadline start state
  | .error cause => ⟨.error (.unbounded cause), 0, [], start, state⟩

/-- A condition given in advance, evaluation by evaluation: the last entry counts from then on. -/
structure Step where
  duration : Nat
  answer : Except Fault Bool

def scripted : List Step → Evaluation (List Step)
  | [] => ⟨.ok false, 0, []⟩
  | [step] => ⟨step.answer, step.duration, [step]⟩
  | step :: steps => ⟨step.answer, step.duration, steps⟩

end ThreadLab.Polling
