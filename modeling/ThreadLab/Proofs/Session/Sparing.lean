import ThreadLab.Proofs.Session.Errand
import ThreadLab.Proofs.Session.Quiet

namespace ThreadLab

theorem Call.request_ne {name other : Text} (apart : other ≠ name) (serial serial' : Text)
    (arguments arguments' : List Json) :
    Call.request serial name arguments ≠ .request serial' other arguments' := by
  intro same
  injection same with _ names _
  exact apart names.symm

namespace Lab

/-- Calls were added, none of them a request of this name, and callbacks may have been. -/
structure Continues (name : Text) (lab after : Lab) : Prop where
  calls : ∃ made, after.calls = lab.calls ++ made ∧
    ∀ serial arguments, Call.request serial name arguments ∉ made
  callbacks : lab.callbacks <+: after.callbacks
  devices : after.devices = lab.devices

variable {name : Text} {lab middle after : Lab}

theorem Continues.refl (name : Text) (lab : Lab) : lab.Continues name lab where
  calls := ⟨[], (List.append_nil _).symm, fun _ _ => List.not_mem_nil⟩
  callbacks := List.prefix_rfl
  devices := rfl

theorem Continues.trans (first : lab.Continues name middle) (second : middle.Continues name after) :
    lab.Continues name after := by
  obtain ⟨early, earlyCalls, earlySpared⟩ := first.calls
  obtain ⟨late, lateCalls, lateSpared⟩ := second.calls
  constructor
  · refine ⟨early ++ late, ?_, ?_⟩
    · rw [lateCalls, earlyCalls, List.append_assoc]
    · intro serial arguments member
      rcases List.mem_append.mp member with member | member
      · exact earlySpared serial arguments member
      · exact lateSpared serial arguments member
  · exact first.callbacks.trans second.callbacks
  · exact second.devices.trans first.devices

theorem Still.continues (still : lab.Still after) {made : List Call}
    (calls : after.calls = lab.calls ++ made)
    (spared : ∀ serial arguments, Call.request serial name arguments ∉ made) :
    lab.Continues name after where
  calls := ⟨made, calls, spared⟩
  callbacks := ⟨[], (List.append_nil _).trans still.callbacks.symm⟩
  devices := still.devices

theorem continues_record {call : Call}
    (spared : ∀ serial arguments, Call.request serial name arguments ≠ call) :
    lab.Continues name (lab.record call) where
  calls := ⟨[call], rfl, fun serial arguments member =>
    spared serial arguments (List.mem_singleton.mp member)⟩
  callbacks := List.prefix_rfl
  devices := rfl

end Lab

namespace Act

variable {α β : Type} {name : Text}

/-- However the act ends, it has made no request of this name. -/
def Spares (name : Text) (act : Act α) : Prop :=
  ∀ lab : Lab, lab.Continues name (act lab).2

theorem spares_pure (value : α) : (pure value : Act α).Spares name :=
  fun lab => .refl name lab

theorem spares_ofExcept (result : Except Fault α) : (ofExcept result).Spares name :=
  fun lab => .refl name lab

theorem spares_check (holds : Bool) : (check holds).Spares name := by
  intro lab
  cases holds <;> exact .refl name lab

theorem continues_bind {act : Act α} {next : α → Act β} (rest : ∀ value, (next value).Spares name)
    (lab : Lab) : (act lab).2.Continues name ((act >>= next) lab).2 := by
  rcases ran : act lab with ⟨fault | value, after⟩
  · rw [bind_of_error ran]
    exact .refl name after
  · rw [bind_of_ok ran]
    exact rest value after

theorem spares_bind {act : Act α} {next : α → Act β} (first : act.Spares name)
    (rest : ∀ value, (next value).Spares name) : (act >>= next).Spares name :=
  fun lab => (first lab).trans (continues_bind rest lab)

theorem spares_request {other : Text} (apart : other ≠ name) (place : Nat) (arguments : List Json) :
    (request place other arguments).Spares name := by
  intro lab
  rw [request_eq]
  exact Lab.continues_record fun serial given => Call.request_ne apart serial _ given _

theorem spares_await (kind : WaitKind) (place : Nat) (event : Text)
    (accepts : Json → Except Fault Bool) (limit : Duration) :
    (await kind place event accepts limit).Spares name := by
  intro lab
  cases found : lab.handlers[place]? with
  | none =>
    rw [await_missing found]
    exact .refl name lab
  | some handler =>
    apply (quiet_await kind place event accepts limit lab).continues
    · rw [await_eq found]
      rfl
    · intro serial given member
      cases List.mem_singleton.mp member

theorem spares_onTimeout {body : Act α} (spares : body.Spares name) (instead : Text → Fault) :
    (onTimeout body instead).Spares name := by
  intro lab
  rw [onTimeout_eq]
  exact spares lab

theorem snd_andThen (body : Act α) (cleanup : Act Unit) (lab : Lab) :
    (andThen body cleanup lab).2 = (cleanup (body lab).2).2 := by
  unfold andThen
  rcases body lab with ⟨result, after⟩
  dsimp only
  rcases cleanup after with ⟨fault | _, last⟩ <;> rfl

end Act

namespace Session

variable {α : Type} {watch : Watch α} {name : Text}

theorem Watch.Course.continues {lab after : Lab} {result : Except Fault α}
    (course : watch.Course lab result after) (registers : watch.register ≠ name)
    (unregisters : watch.unregister ≠ name) : lab.Continues name after := by
  cases course with
  | unasked unknown => exact .refl name lab
  | refused known refused =>
    exact Lab.continues_record fun serial given => Call.request_ne registers serial _ given _
  | returned known granted calls callbacks devices =>
    refine ⟨⟨_, calls, ?_⟩, ⟨_, callbacks.symm⟩, devices⟩
    intro serial arguments member
    simp only [List.mem_cons, List.not_mem_nil, or_false] at member
    rcases member with first | waited | last
    · exact Call.request_ne registers _ _ _ _ first
    · cases waited
    · exact Call.request_ne unregisters _ _ _ _ last

theorem Watch.spares_act (registers : watch.register ≠ name)
    (unregisters : watch.unregister ≠ name) : watch.act.Spares name :=
  fun lab => (watch.course_act lab).continues registers unregisters

theorem spares_waitForLost (handler : Nat) (limit : Duration) :
    (waitForLost handler limit).Spares name :=
  Act.spares_bind (Act.spares_onTimeout (Act.spares_await .first handler _ _ limit) _) fun _ =>
    Act.spares_ofExcept _

end Session

end ThreadLab
