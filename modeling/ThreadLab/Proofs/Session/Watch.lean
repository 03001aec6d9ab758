import ThreadLab.Proofs.Session.Act

namespace ThreadLab

namespace Session

/-- What one act registers, waits for and gives back. A timeout is turned into a fault that may name
the label of the device. -/
structure Watch (α : Type) where
  device : Nat
  register : Text
  arguments : Device → Except Fault (List Json)
  unregister : Text
  kind : WaitKind
  event : Text
  accepts : Json → Except Fault Bool
  limit : Duration
  late : Text → Text → Fault
  convert : Json → Except Fault α
  notes : α → List Text := fun _ => []

namespace Watch

variable {α : Type} (watch : Watch α) (lab : Lab)

def fetch (arguments : List Json) (label : Text) : Act Json :=
  Act.withCallback watch.device watch.register arguments watch.unregister fun handler =>
    (Act.await watch.kind handler watch.event watch.accepts watch.limit).onTimeout
      (watch.late label)

def act : Act α := do
  let device ← Act.device watch.device
  let arguments ← Act.ofExcept (watch.arguments device)
  let data ← watch.fetch arguments device.label
  let value ← Act.ofExcept (watch.convert data)
  forM (watch.notes value) Act.log
  return value

def waited : Except Fault Json :=
  lateAs (watch.late (lab.device watch.device).label)
    ((lab.nextHandler watch.device).outlook.meets (lab.device watch.device).label watch.event
      watch.accepts)

/-- The fault of the unregistering request counts before whatever the wait ended in. -/
def outcome : Except Fault α := do
  lab.reply watch.device watch.unregister ()
  let data ← watch.waited lab
  watch.convert data

def registerCall (arguments : List Json) : Call :=
  .request (lab.device watch.device).serial watch.register arguments

def waitCall : Call :=
  .wait watch.kind (lab.device watch.device).serial (lab.nextCallback watch.device) watch.event
    watch.limit

def unregisterCall : Call :=
  .request (lab.device watch.device).serial watch.unregister
    [.text (lab.nextCallback watch.device)]

def served (arguments : List Json) : Lab :=
  ((lab.registered watch.device watch.register arguments).awaited watch.kind lab.handlers.length
    (lab.nextHandler watch.device) watch.event watch.accepts watch.limit).record
    (watch.unregisterCall lab)

/-- What a watch may end in and leave behind: it asks for nothing, its registration is refused, or
the callback that it registers is the one that it waits on and gives back. -/
inductive Course : Except Fault α → Lab → Prop
  | unasked {fault : Fault} (unknown : watch.arguments (lab.device watch.device) = .error fault) :
    Course (.error fault) lab
  | refused {arguments : List Json} {text : Text}
    (known : watch.arguments (lab.device watch.device) = .ok arguments)
    (refused : lab.script.requestFaults.lookup watch.register = some text) :
    Course (.error (.snippet .request (lab.device watch.device).label text))
      (lab.record (watch.registerCall lab arguments))
  | returned {arguments : List Json} {after : Lab}
    (known : watch.arguments (lab.device watch.device) = .ok arguments)
    (granted : lab.script.requestFaults.lookup watch.register = none)
    (calls : after.calls = lab.calls ++
      [watch.registerCall lab arguments, watch.waitCall lab, watch.unregisterCall lab])
    (callbacks : after.callbacks = lab.callbacks ++
      [(watch.device, lab.nextCallback watch.device)])
    (devices : after.devices = lab.devices) :
    Course (watch.outcome lab) after

variable {watch lab}

theorem act_silent (silent : watch.notes = fun _ => []) :
    watch.act = (do
      let device ← Act.device watch.device
      let arguments ← Act.ofExcept (watch.arguments device)
      let data ← watch.fetch arguments device.label
      Act.ofExcept (watch.convert data)) := by
  unfold act
  rw [silent]
  simp only [List.forM_nil, pure_bind, bind_pure]

theorem fetch_refused {arguments : List Json} {label text : Text}
    (refused : lab.script.requestFaults.lookup watch.register = some text) :
    watch.fetch arguments label lab =
      (.error (.snippet .request (lab.device watch.device).label text),
        lab.record (watch.registerCall lab arguments)) :=
  Act.bind_of_error (Act.register_refused refused)

theorem fetch_granted {arguments : List Json}
    (granted : lab.script.requestFaults.lookup watch.register = none) :
    watch.fetch arguments (lab.device watch.device).label lab =
      (lab.reply watch.device watch.unregister () >>= fun _ => watch.waited lab,
        watch.served lab arguments) := by
  have found := lab.getElem?_registered watch.device watch.register arguments
  have waiting : (Act.await watch.kind lab.handlers.length watch.event watch.accepts
      watch.limit).onTimeout (watch.late (lab.device watch.device).label)
      (lab.registered watch.device watch.register arguments) =
        (watch.waited lab, (lab.registered watch.device watch.register arguments).awaited watch.kind
          lab.handlers.length (lab.nextHandler watch.device) watch.event watch.accepts
          watch.limit) := by
    rw [Act.onTimeout_eq, Act.await_eq found]
    rfl
  unfold fetch Act.withCallback
  rw [Act.bind_of_ok (Act.register_granted granted), Act.bind_of_ok (Act.handler_eq found),
    Act.andThen_request waiting]
  rfl

theorem calls_served (arguments : List Json) :
    (watch.served lab arguments).calls = lab.calls ++
      [watch.registerCall lab arguments, watch.waitCall lab, watch.unregisterCall lab] := by
  show lab.calls ++ [watch.registerCall lab arguments] ++ [watch.waitCall lab] ++
    [watch.unregisterCall lab] = _
  rw [List.append_assoc, List.append_assoc]
  rfl

theorem callbacks_served (arguments : List Json) :
    (watch.served lab arguments).callbacks =
      lab.callbacks ++ [(watch.device, lab.nextCallback watch.device)] := by
  have found := lab.getElem?_registered watch.device watch.register arguments
  have kept := Lab.callbacks_awaited found watch.kind watch.event watch.accepts watch.limit
  exact kept.trans (lab.callbacks_registered watch.device watch.register arguments)

theorem forM_log (notes : List Text) (lab : Lab) :
    forM notes Act.log lab = (.ok (), { lab with logs := lab.logs ++ notes }) := by
  induction notes generalizing lab with
  | nil =>
    rw [List.append_nil]
    rfl
  | cons note notes ih =>
    have logged : Act.log note lab = (.ok (), { lab with logs := lab.logs ++ [note] }) := rfl
    rw [List.forM_cons, Act.bind_of_ok logged, ih, List.append_assoc]
    rfl

theorem act_granted {arguments : List Json}
    (known : watch.arguments (lab.device watch.device) = .ok arguments)
    (granted : lab.script.requestFaults.lookup watch.register = none) :
    ∃ logs : List Text,
      watch.act lab = (watch.outcome lab, { watch.served lab arguments with logs }) := by
  have fetched := @fetch_granted _ watch lab arguments granted
  unfold act outcome
  rw [Act.bind_of_ok (Act.device_eq watch.device lab), known,
    Act.bind_of_ok (Act.ofExcept_eq (.ok arguments) lab)]
  cases unregistered : lab.reply watch.device watch.unregister () with
  | error fault =>
    rw [unregistered] at fetched
    rw [Act.bind_of_error fetched]
    exact ⟨_, rfl⟩
  | ok done =>
    rw [unregistered] at fetched
    cases ended : watch.waited lab with
    | error fault =>
      rw [ended] at fetched
      rw [Act.bind_of_error fetched]
      exact ⟨_, rfl⟩
    | ok data =>
      rw [ended] at fetched
      rw [Act.bind_of_ok fetched]
      change ∃ logs, _ = (watch.convert data, _)
      cases watch.convert data with
      | error fault =>
        rw [Act.bind_of_error (Act.ofExcept_eq (.error fault) _)]
        exact ⟨_, rfl⟩
      | ok value =>
        rw [Act.bind_of_ok (Act.ofExcept_eq (.ok value) _), Act.bind_of_ok (forM_log _ _)]
        exact ⟨_, rfl⟩

theorem act_refused {arguments : List Json} {text : Text}
    (known : watch.arguments (lab.device watch.device) = .ok arguments)
    (refused : lab.script.requestFaults.lookup watch.register = some text) :
    watch.act lab = (.error (.snippet .request (lab.device watch.device).label text),
      lab.record (watch.registerCall lab arguments)) := by
  unfold act
  rw [Act.bind_of_ok (Act.device_eq watch.device lab), known,
    Act.bind_of_ok (Act.ofExcept_eq (.ok arguments) lab), Act.bind_of_error (fetch_refused refused)]

theorem course_act (watch : Watch α) (lab : Lab) :
    watch.Course lab (watch.act lab).1 (watch.act lab).2 := by
  cases known : watch.arguments (lab.device watch.device) with
  | error fault =>
    unfold act
    rw [Act.bind_of_ok (Act.device_eq watch.device lab), known]
    exact .unasked known
  | ok arguments =>
    cases granted : lab.script.requestFaults.lookup watch.register with
    | some text =>
      rw [act_refused known granted]
      exact .refused known granted
    | none =>
      obtain ⟨logs, ran⟩ := act_granted known granted
      rw [ran]
      exact .returned known granted (calls_served arguments) (callbacks_served arguments) rfl

end Watch

end Session

end ThreadLab
