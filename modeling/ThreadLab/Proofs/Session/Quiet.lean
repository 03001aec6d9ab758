import ThreadLab.Proofs.Session.Act
import ThreadLab.Session.Daemon
import ThreadLab.Session.Interface
import ThreadLab.Session.Preparation

namespace ThreadLab

theorem Polling.state_waitUntil {σ : Type} {evaluate : σ → Evaluation σ} {rest : Nat → σ → σ}
    {holds : σ → Prop} (evaluated : ∀ state, holds state → holds (evaluate state).state)
    (rested : ∀ nap state, holds state → holds (rest nap state)) (limit : Duration)
    (deadline now : Int) (state : σ) (start : holds state) :
    holds (waitUntil evaluate rest limit deadline now state).state := by
  have next := evaluated state start
  rw [waitUntil]
  dsimp only
  split
  · exact next
  · exact next
  · split
    · exact next
    · exact state_waitUntil evaluated rested limit deadline _ _ (rested _ _ next)
termination_by (deadline - now).toNat
decreasing_by
  have := interval_pos
  omega

/-- Nothing was registered, and no device became another. -/
structure Lab.Still (lab after : Lab) : Prop where
  callbacks : after.callbacks = lab.callbacks
  devices : after.devices = lab.devices

theorem Lab.Still.trans {lab middle after : Lab} (first : lab.Still middle)
    (second : middle.Still after) : lab.Still after :=
  ⟨second.callbacks.trans first.callbacks, second.devices.trans first.devices⟩

namespace Act

variable {α β : Type}

/-- The act registers nothing, however it ends. -/
def Quiet (act : Act α) : Prop :=
  ∀ lab : Lab, lab.Still (act lab).2

theorem quiet_ofExcept (result : Except Fault α) : (ofExcept result).Quiet :=
  fun _ => ⟨rfl, rfl⟩

theorem quiet_pure (value : α) : (pure value : Act α).Quiet :=
  fun _ => ⟨rfl, rfl⟩

theorem quiet_record (call : Call) : (record call).Quiet :=
  fun _ => ⟨rfl, rfl⟩

theorem quiet_device (place : Nat) : (device place).Quiet :=
  fun _ => ⟨rfl, rfl⟩

theorem quiet_millis : millis.Quiet :=
  fun _ => ⟨rfl, rfl⟩

theorem quiet_bind {act : Act α} {next : α → Act β} (first : act.Quiet)
    (rest : ∀ value, (next value).Quiet) : (act >>= next).Quiet := by
  intro lab
  have before := first lab
  rcases ran : act lab with ⟨fault | value, after⟩
  · rw [ran] at before
    rw [bind_of_error ran]
    exact before
  · rw [ran] at before
    rw [bind_of_ok ran]
    exact before.trans (rest value after)

theorem quiet_request (place : Nat) (name : Text) (arguments : List Json) :
    (request place name arguments).Quiet := by
  intro lab
  rw [request_eq]
  exact ⟨rfl, rfl⟩

theorem quiet_handler (place : Nat) : (handler place).Quiet := by
  intro lab
  unfold handler
  split <;> exact ⟨rfl, rfl⟩

theorem quiet_await (kind : WaitKind) (place : Nat) (event : Text)
    (accepts : Json → Except Fault Bool) (limit : Duration) :
    (await kind place event accepts limit).Quiet := by
  intro lab
  cases found : lab.handlers[place]? with
  | none =>
    rw [await_missing found]
    exact ⟨rfl, rfl⟩
  | some handler =>
    rw [await_eq found]
    exact ⟨Lab.callbacks_awaited found kind event accepts limit, rfl⟩

theorem quiet_onTimeout {body : Act α} (quiet : body.Quiet) (instead : Text → Fault) :
    (onTimeout body instead).Quiet := by
  intro lab
  rw [onTimeout_eq]
  exact quiet lab

theorem quiet_waitFor {condition : Act Bool} (quiet : condition.Quiet) (limit : Duration) :
    (waitFor condition limit).Quiet := by
  intro lab
  unfold waitFor Polling.waitFor
  dsimp only
  split
  · apply @Polling.state_waitUntil _ _ _ lab.Still
    · intro state still
      exact still.trans (quiet state)
    · intro nap state still
      exact still.trans ⟨rfl, rfl⟩
    · exact ⟨rfl, rfl⟩
  · exact ⟨rfl, rfl⟩

theorem quiet_shell (place : Nat) (command : Text) : (shell place command).Quiet := by
  unfold shell
  refine quiet_bind (quiet_device place) fun device => quiet_bind (quiet_record _) fun _ => ?_
  exact fun _ => ⟨rfl, rfl⟩

theorem quiet_shellText (place : Nat) (command : Text) : (shellText place command).Quiet :=
  quiet_bind (quiet_shell place command) fun _ => quiet_ofExcept _

end Act

namespace Session

theorem quiet_networkPrefixes (device : Nat) : (networkPrefixes device).Quiet :=
  Act.quiet_bind (Act.quiet_shellText device _) fun _ => Act.quiet_ofExcept _

theorem quiet_isInGroup (device : Nat) (interface : Text) (group : Ip.Reference) :
    (isInGroup device interface group).Quiet :=
  Act.quiet_bind (Act.quiet_shellText device _) fun _ =>
    Act.quiet_bind (Act.quiet_ofExcept _) fun _ => Act.quiet_pure _

theorem quiet_linkAddresses (device : Nat) (interface : Text) :
    (linkAddresses device interface).Quiet :=
  Act.quiet_bind (Act.quiet_shellText device _) fun _ =>
    Act.quiet_bind Act.quiet_millis fun _ => Act.quiet_ofExcept _

theorem quiet_wakeScreen (device : Nat) : (wakeScreen device).Quiet :=
  Act.quiet_bind (Act.quiet_shell device _) fun _ =>
    Act.quiet_bind (Act.quiet_shell device _) fun _ =>
      Act.quiet_bind (Act.quiet_shell device _) fun _ => Act.quiet_pure _

theorem quiet_prepare (device : Nat) : (prepare device).Quiet :=
  Act.quiet_bind (Act.quiet_device device) fun _ =>
    Act.quiet_bind (Act.quiet_record _) fun _ => quiet_wakeScreen device

end Session

end ThreadLab
