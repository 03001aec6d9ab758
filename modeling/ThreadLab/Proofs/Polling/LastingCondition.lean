import ThreadLab.Proofs.Polling

namespace ThreadLab.Polling

variable {σ : Type}

/-- A condition that takes no time and holds exactly from the instant `since` on. The time is read
off its state by `clock`. -/
structure HoldsFrom (evaluate : σ → Evaluation σ) (rest : Nat → σ → σ) (clock : σ → Int)
    (since : Int) : Prop where
  instant : ∀ state, (evaluate state).duration = 0
  answer : ∀ state, (evaluate state).answer = .ok (decide (since ≤ clock state))
  unmoved : ∀ state, clock (evaluate state).state = clock state
  rested : ∀ nap state, clock (rest nap state) = clock state + nap

section

variable {schedule : Schedule σ} {clock : σ → Int} {since : Int}

namespace Schedule

theorem holdsFrom_after (holds : HoldsFrom schedule.evaluate schedule.rest clock since)
    (count : Nat) :
    HoldsFrom (schedule.after count).evaluate (schedule.after count).rest clock since := by
  induction count with
  | zero => exact holds
  | succ count ih => exact ih

theorem finish_eq_start (holds : HoldsFrom schedule.evaluate schedule.rest clock since)
    (count : Nat) : schedule.finish count = (schedule.after count).start := by
  have none := (holdsFrom_after holds count).instant (schedule.after count).state
  change _ + ((schedule.after count).first.duration : Int) = _
  rw [first, none]
  omega

theorem clock_after (holds : HoldsFrom schedule.evaluate schedule.rest clock since)
    (starts : clock schedule.state = schedule.start) (count : Nat) :
    clock (schedule.after count).state = schedule.finish count := by
  induction count with
  | zero => rw [finish_eq_start holds]; exact starts
  | succ count ih =>
    have there := holdsFrom_after holds count
    rw [finish_eq_start holds, start_after_succ]
    change clock ((schedule.after count).rest _
      ((schedule.after count).evaluate (schedule.after count).state).state) = _
    rw [there.rested, there.unmoved, ih]
    rfl

theorem answer_eq (holds : HoldsFrom schedule.evaluate schedule.rest clock since)
    (starts : clock schedule.state = schedule.start) (count : Nat) :
    (schedule.evaluation count).answer = .ok (decide (since ≤ schedule.finish count)) := by
  rw [← clock_after holds starts]
  exact (holdsFrom_after holds count).answer _

/-- The instants of the evaluations: one after every interval, but none after the close. -/
theorem finish_eq_min (holds : HoldsFrom schedule.evaluate schedule.rest clock since)
    (count : Nat) : schedule.finish count =
      min (schedule.start + count * 500000) (max schedule.start schedule.deadline) := by
  induction count with
  | zero =>
    rw [finish_eq_start holds]
    change schedule.start = _
    omega
  | succ count ih =>
    have cut := schedule.nap_eq_min count
    rw [finish_eq_start holds, start_after_succ]
    push_cast
    omega

theorem ends_iff (holds : HoldsFrom schedule.evaluate schedule.rest clock since)
    (starts : clock schedule.state = schedule.start) (count : Nat) :
    schedule.Ends count ↔ since ≤ schedule.finish count ∨ schedule.deadline ≤ schedule.finish count := by
  rw [Ends, answer_eq holds starts, Except.ok.injEq, decide_eq_false_iff_not]
  exact Decidable.or_iff_not_imp_left.symm

end Schedule

end

/-- The instants between `start` and `close` at which a condition is looked at. -/
def Looks (start close : Int) : Set Int :=
  {instant | ∃ count : Nat, instant = min (start + count * 500000) close}

/-- How a wait between two instants ends that is for a condition which holds from `since` on. -/
structure Sees (start close since : Int) (limit : Duration) (outcome : Outcome σ) : Prop where
  returns_iff : outcome.result = .ok () ↔ since ≤ close
  expires : close < since →
    outcome.result = .error (.expired (.condition limit)) ∧ outcome.finish = close
  first : since ≤ close → IsLeast {instant ∈ Looks start close | since ≤ instant} outcome.finish
  in_time : since ≤ close → since ≤ outcome.finish ∧ outcome.finish ≤ close
  soon : start ≤ since → since ≤ close → outcome.finish - since < 500000

open Schedule

section

variable {schedule : Schedule σ} {limit : Duration} {outcome : Outcome σ} {last : Nat}
  {clock : σ → Int} {since : Int}

theorem Ending.sees_of_reached (ending : Ending schedule limit outcome last)
    (holds : HoldsFrom schedule.evaluate schedule.rest clock since)
    (starts : clock schedule.state = schedule.start) (reached : since ≤ schedule.finish last) :
    Sees schedule.start (max schedule.start schedule.deadline) since limit outcome := by
  have result := ending.result
  have least := ending.least
  simp only [ends_iff holds starts] at least
  rw [answer_eq holds starts, decide_eq_true reached] at result
  have looks := finish_eq_min holds
  have instant := looks last
  have close : since ≤ max schedule.start schedule.deadline := by omega
  refine ⟨iff_of_true result close, fun late => absurd close (not_le.mpr late), fun _ => ?_,
    fun _ => ?_, fun began _ => ?_⟩
  · rw [ending.finish]
    refine ⟨⟨⟨last, looks last⟩, reached⟩, ?_⟩
    rintro _ ⟨⟨count, rfl⟩, held⟩
    rw [← looks count] at held ⊢
    have order : last ≤ count := least.2 (.inl held)
    rw [looks last, looks count]
    have grows : (last : Int) ≤ count := Int.ofNat_le.mpr order
    omega
  · rw [ending.finish]
    omega
  · rw [ending.finish]
    cases last with
    | zero =>
      push_cast at instant
      omega
    | succ last =>
      -- The evaluation before the last one came too early.
      have missed : ¬since ≤ schedule.finish last := by
        intro held
        exact absurd (least.2 (.inl held)) (Nat.not_succ_le_self last)
      have before := looks last
      push_cast at instant
      omega

theorem Ending.sees_of_missed (ending : Ending schedule limit outcome last)
    (holds : HoldsFrom schedule.evaluate schedule.rest clock since)
    (starts : clock schedule.state = schedule.start) (missed : ¬since ≤ schedule.finish last) :
    Sees schedule.start (max schedule.start schedule.deadline) since limit outcome := by
  have result := ending.result
  have least := ending.least.1
  have instant := finish_eq_min holds last
  have late : schedule.deadline ≤ schedule.finish last :=
    ((ends_iff holds starts last).mp least).resolve_left missed
  rw [answer_eq holds starts, decide_eq_false missed] at result
  have close : max schedule.start schedule.deadline < since := by omega
  have failed : outcome.result ≠ .ok () := by
    rw [result]
    nofun
  refine ⟨iff_of_false failed (not_le.mpr close), fun _ => ⟨result, ?_⟩,
    fun early => absurd early (not_le.mpr close), fun early => absurd early (not_le.mpr close),
    fun _ early => absurd early (not_le.mpr close)⟩
  rw [ending.finish]
  omega

theorem Ending.sees (ending : Ending schedule limit outcome last)
    (holds : HoldsFrom schedule.evaluate schedule.rest clock since)
    (starts : clock schedule.state = schedule.start) :
    Sees schedule.start (max schedule.start schedule.deadline) since limit outcome := by
  by_cases reached : since ≤ schedule.finish last
  · exact ending.sees_of_reached holds starts reached
  · exact ending.sees_of_missed holds starts reached

end

/-- A wait returns if the condition holds by its close, at the first look from then on, and is timed
out at its close otherwise. The close is the start if the limit is negative. -/
theorem waitFor_lasting {evaluate : σ → Evaluation σ} {rest : Nat → σ → σ} {clock : σ → Int}
    {since : Int} (holds : HoldsFrom evaluate rest clock since) (limit : Duration) (state : σ) :
    Sees (clock state) (clock state + max limit.micros 0) since limit
      (waitFor evaluate rest limit (clock state) state .exact) := by
  obtain ⟨last, ending⟩ :=
    exists_ending ⟨evaluate, rest, clock state + limit.micros, clock state, state⟩ limit
  have sees := ending.sees holds rfl
  have close : max (clock state) (clock state + limit.micros) =
      clock state + max limit.micros 0 := by omega
  dsimp only at sees
  rw [close] at sees
  rwa [waitFor_eq_wait evaluate rest (Clock.deadline_exact _ limit.micros)]

def fromInstant (since now : Int) : Evaluation Int :=
  ⟨.ok (decide (since ≤ now)), 0, now⟩

theorem holdsFrom_fromInstant (since : Int) :
    HoldsFrom (fromInstant since) (fun nap now => now + nap) id since :=
  ⟨fun _ => rfl, fun _ => rfl, fun _ => rfl, fun _ _ => rfl⟩

theorem waitFor_lasting_close :
    HoldsFrom (fromInstant 1200006) (fun nap now => now + nap) id 1200006 ∧
      Sees 7 (7 + 1200000) 1200006 (.ofMillis 1200)
        (waitFor (fromInstant 1200006) (fun nap now => now + nap) (.ofMillis 1200) 7 7 .exact) := by
  have holds := holdsFrom_fromInstant 1200006
  exact ⟨holds, waitFor_lasting holds (.ofMillis 1200) 7⟩

end ThreadLab.Polling
