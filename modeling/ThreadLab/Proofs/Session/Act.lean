import ThreadLab.Session.Act

namespace ThreadLab

variable {α : Type}

/-- What a wait ends in on a device with this label. -/
def Outlook.meets (outlook : Outlook) (label event : Text) (accepts : Json → Except Fault Bool) :
    Except Fault Json :=
  match outlook.fault with
  | some (fault, text) => .error (.snippet fault label text)
  | none =>
    match (Act.takeEvent event accepts outlook.events).1 with
    | .error fault => .error fault
    | .ok (some event) => .ok event.data
    | .ok none => .error (.snippet .timeout label outlook.timeoutText)

def Outlook.rest (outlook : Outlook) (event : Text) (accepts : Json → Except Fault Bool) :
    Outlook :=
  match outlook.fault with
  | some _ => outlook
  | none => { outlook with events := (Act.takeEvent event accepts outlook.events).2 }

def lateAs (instead : Text → Fault) : Except Fault α → Except Fault α
  | .error (.snippet .timeout label text) => .error (instead (labelled label text))
  | result => result

namespace Lab

theorem device_of_devices {lab after : Lab} (same : after.devices = lab.devices) (place : Nat) :
    after.device place = lab.device place := by
  unfold device
  rw [same]

def reply (lab : Lab) (place : Nat) (name : Text) (value : α) : Except Fault α :=
  match lab.script.requestFaults.lookup name with
  | some text => .error (.snippet .request (lab.device place).label text)
  | none => .ok value

def Grants (lab : Lab) (name : Text) : Prop :=
  lab.script.requestFaults.lookup name = none

instance (lab : Lab) (name : Text) : Decidable (lab.Grants name) :=
  inferInstanceAs (Decidable (_ = none))

def Refuses (lab : Lab) (name text : Text) : Prop :=
  lab.script.requestFaults.lookup name = some text

theorem grants_or_refuses (lab : Lab) (name : Text) :
    lab.Grants name ∨ ∃ text, lab.Refuses name text := by
  unfold Grants Refuses
  cases lab.script.requestFaults.lookup name with
  | none => exact .inl rfl
  | some text => exact .inr ⟨text, rfl⟩

theorem reply_of_grants {lab : Lab} {name : Text} (granted : lab.Grants name) (place : Nat)
    (value : α) : lab.reply place name value = .ok value := by
  rw [reply, granted]

theorem reply_of_refuses {lab : Lab} {name text : Text} (refused : lab.Refuses name text)
    (place : Nat) (value : α) :
    lab.reply place name value = .error (.snippet .request (lab.device place).label text) := by
  rw [reply, refused]

def shellReply (lab : Lab) : ShellReply :=
  lab.script.shell.head?.getD (.ok [])

def printed (lab : Lab) : Except Fault Text := do
  let bytes ← lab.shellReply
  (Text.Utf8.decode bytes).mapError .noText

theorem printed_of_reply {lab : Lab} {bytes : Bytes} (reply : lab.shellReply = .ok bytes) :
    lab.printed = (Text.Utf8.decode bytes).mapError .noText := by
  rw [printed, reply]
  rfl

theorem printed_of_text {lab : Lab} {bytes : Bytes} {listing : Text}
    (reply : lab.script.shell.head? = some (.ok bytes))
    (decoded : Text.Utf8.decode bytes = .ok listing) : lab.printed = .ok listing := by
  have answered : lab.shellReply = .ok bytes := by
    rw [shellReply, reply]
    rfl
  rw [printed_of_reply answered, decoded]
  rfl

def nextHandler (lab : Lab) (place : Nat) : Handler where
  device := place
  callback := lab.nextCallback place
  outlook := lab.script.outlooks.head?.getD {}

def registered (lab : Lab) (place : Nat) (name : Text) (arguments : List Json) : Lab :=
  { lab.record (.request (lab.device place).serial name arguments) with
    handlers := lab.handlers ++ [lab.nextHandler place]
    script := { lab.script with outlooks := lab.script.outlooks.drop 1 } }

def awaited (lab : Lab) (kind : WaitKind) (place : Nat) (handler : Handler) (event : Text)
    (accepts : Json → Except Fault Bool) (limit : Duration) : Lab :=
  { lab.record (.wait kind (lab.device handler.device).serial handler.callback event limit) with
    handlers := lab.handlers.set place
      { handler with outlook := handler.outlook.rest event accepts } }

def callbacks (lab : Lab) : List (Nat × Text) :=
  lab.handlers.map fun handler => (handler.device, handler.callback)

theorem getElem?_registered (lab : Lab) (place : Nat) (name : Text) (arguments : List Json) :
    (lab.registered place name arguments).handlers[lab.handlers.length]? =
      some (lab.nextHandler place) :=
  List.getElem?_concat_length

theorem callbacks_registered (lab : Lab) (place : Nat) (name : Text) (arguments : List Json) :
    (lab.registered place name arguments).callbacks =
      lab.callbacks ++ [(place, lab.nextCallback place)] :=
  List.map_append

theorem callbacks_awaited {lab : Lab} {place : Nat} {handler : Handler}
    (found : lab.handlers[place]? = some handler) (kind : WaitKind) (event : Text)
    (accepts : Json → Except Fault Bool) (limit : Duration) :
    (lab.awaited kind place handler event accepts limit).callbacks = lab.callbacks := by
  obtain ⟨inside, -⟩ := List.getElem?_eq_some_iff.mp found
  unfold callbacks awaited
  apply List.ext_getElem?
  intro other
  by_cases here : place = other
  · subst here
    rw [List.getElem?_map, List.getElem?_set_self inside, List.getElem?_map, found]
    rfl
  · rw [List.getElem?_map, List.getElem?_set_ne here, List.getElem?_map]

end Lab

namespace Act

theorem device_eq (place : Nat) (lab : Lab) : device place lab = (.ok (lab.device place), lab) :=
  rfl

theorem ofExcept_eq (result : Except Fault α) (lab : Lab) : ofExcept result lab = (result, lab) :=
  rfl

theorem record_eq (call : Call) (lab : Lab) : record call lab = (.ok (), lab.record call) :=
  rfl

variable {place : Nat} {name : Text} {arguments : List Json} {lab : Lab}

theorem sent_refused {text : Text} {next : Act α}
    (refused : lab.script.requestFaults.lookup name = some text) :
    (do
      let device ← device place
      record (.request device.serial name arguments)
      scriptedFault device name
      next : Act α) lab =
      (.error (.snippet .request (lab.device place).label text),
        lab.record (.request (lab.device place).serial name arguments)) := by
  have asked : scriptedFault (lab.device place) name
      (lab.record (.request (lab.device place).serial name arguments)) =
        (.error (.snippet .request (lab.device place).label text),
          lab.record (.request (lab.device place).serial name arguments)) := by
    unfold scriptedFault
    rw [show Lab.script (lab.record _) = lab.script from rfl, refused]
  rw [bind_of_ok (device_eq place lab), bind_of_ok (record_eq _ lab), bind_of_error asked]

theorem sent_granted {next : Act α} (granted : lab.script.requestFaults.lookup name = none) :
    (do
      let device ← device place
      record (.request device.serial name arguments)
      scriptedFault device name
      next : Act α) lab =
      next (lab.record (.request (lab.device place).serial name arguments)) := by
  have asked : scriptedFault (lab.device place) name
      (lab.record (.request (lab.device place).serial name arguments)) =
        (.ok (), lab.record (.request (lab.device place).serial name arguments)) := by
    unfold scriptedFault
    rw [show Lab.script (lab.record _) = lab.script from rfl, granted]
  rw [bind_of_ok (device_eq place lab), bind_of_ok (record_eq _ lab), bind_of_ok asked]

theorem request_eq :
    request place name arguments lab =
      (lab.reply place name ((lab.script.requestResults.lookup name).getD .null),
        lab.record (.request (lab.device place).serial name arguments)) := by
  unfold request Lab.reply
  cases faulty : lab.script.requestFaults.lookup name with
  | some text => exact sent_refused faulty
  | none => exact sent_granted faulty

theorem request_return (value : α) :
    (do
      let _ ← request place name arguments
      return value : Act α) lab =
      (lab.reply place name value,
        lab.record (.request (lab.device place).serial name arguments)) := by
  have asked := @request_eq place name arguments lab
  unfold Lab.reply at asked ⊢
  cases faulty : lab.script.requestFaults.lookup name with
  | some text =>
    rw [faulty] at asked
    exact bind_of_error asked
  | none =>
    rw [faulty] at asked
    exact bind_of_ok asked

theorem register_refused {text : Text}
    (refused : lab.script.requestFaults.lookup name = some text) :
    register place name arguments lab =
      (.error (.snippet .request (lab.device place).label text),
        lab.record (.request (lab.device place).serial name arguments)) :=
  sent_refused refused

theorem register_granted (granted : lab.script.requestFaults.lookup name = none) :
    register place name arguments lab =
      (.ok lab.handlers.length, lab.registered place name arguments) :=
  sent_granted granted

theorem bind_of_still {β : Type} {act : Act α} {next : α → Act β} {result : Except Fault α}
    {lab after : Lab} {convert : α → Except Fault β} (ran : act lab = (result, after))
    (still : ∀ value, next value after = (convert value, after)) :
    (act >>= next) lab = (result >>= convert, after) := by
  cases result with
  | error fault => exact bind_of_error ran
  | ok value => exact (bind_of_ok ran).trans (still value)

theorem bind_ofExcept {β : Type} {act : Act α} {result : Except Fault α} {lab after : Lab}
    (ran : act lab = (result, after)) (convert : α → Except Fault β) :
    (act >>= fun value => ofExcept (convert value)) lab = (result >>= convert, after) :=
  bind_of_still ran fun _ => rfl

theorem handler_eq {handler : Handler} (found : lab.handlers[place]? = some handler) :
    Act.handler place lab = (.ok handler, lab) := by
  unfold Act.handler
  rw [found]

theorem await_missing (missing : lab.handlers[place]? = none) (kind : WaitKind) (event : Text)
    (accepts : Json → Except Fault Bool) (limit : Duration) :
    await kind place event accepts limit lab = (.error .noSuchPlace, lab) := by
  have refused : handler place lab = (.error .noSuchPlace, lab) := by
    unfold handler
    rw [missing]
  unfold await
  rw [bind_of_error refused]

theorem await_eq {kind : WaitKind} {event : Text} {accepts : Json → Except Fault Bool}
    {limit : Duration} {handler : Handler} (found : lab.handlers[place]? = some handler) :
    await kind place event accepts limit lab =
      (handler.outlook.meets (lab.device handler.device).label event accepts,
        lab.awaited kind place handler event accepts limit) := by
  unfold await Lab.awaited
  rw [bind_of_ok (handler_eq found), bind_of_ok (device_eq _ lab), bind_of_ok (record_eq _ lab)]
  obtain ⟨device, callback, events, timeoutText, fault⟩ := handler
  cases fault with
  | some fault =>
    obtain ⟨inside, same⟩ := List.getElem?_eq_some_iff.mp found
    have kept := List.set_getElem_self inside
    rw [same] at kept
    dsimp only [Outlook.meets, Outlook.rest]
    rw [kept]
    rfl
  | none =>
    dsimp only [Outlook.meets, Outlook.rest]
    obtain ⟨found, left⟩ := takeEvent event accepts events
    rcases found with fault | _ | event <;> rfl

theorem onTimeout_eq (body : Act α) (instead : Text → Fault) (lab : Lab) :
    onTimeout body instead lab = (lateAs instead (body lab).1, (body lab).2) := by
  unfold onTimeout
  generalize body lab = ran
  obtain ⟨result, after⟩ := ran
  cases result with
  | ok value => rfl
  | error fault =>
    cases fault with
    | snippet kind label text => cases kind <;> rfl
    | _ => rfl

/-- A request that cleans up is made whatever came of the body, and its fault is the one that
counts. -/
theorem andThen_request {body : Act α} {result : Except Fault α} {after : Lab}
    (ran : body lab = (result, after)) :
    andThen body (do let _ ← request place name arguments) lab =
      (after.reply place name () >>= fun _ => result,
        after.record (.request (after.device place).serial name arguments)) := by
  have asked := @request_return _ place name arguments after ()
  unfold andThen
  rw [ran]
  dsimp only
  rw [asked]
  unfold Lab.reply
  cases after.script.requestFaults.lookup name <;> rfl

theorem shellText_eq (place : Nat) (command : Text) (lab : Lab) :
    ∃ after, shellText place command lab = (lab.printed, after) ∧
      after.calls = lab.calls ++ [.shell (lab.device place).serial command] ∧
      after.millis = lab.millis := by
  have answered : shell place command lab = (lab.shellReply, (shell place command lab).2) := rfl
  exact ⟨_, bind_ofExcept answered _, rfl, rfl⟩

theorem shellText_of_reply {lab : Lab} {bytes : Bytes} {listing : Text} (place : Nat)
    (command : Text) (reply : lab.script.shell.head? = some (.ok bytes))
    (decoded : Text.Utf8.decode bytes = .ok listing) :
    ∃ after, shellText place command lab = (.ok listing, after) ∧ after.millis = lab.millis := by
  obtain ⟨after, shown, -, still⟩ := shellText_eq place command lab
  rw [Lab.printed_of_text reply decoded] at shown
  exact ⟨after, shown, still⟩

end Act

end ThreadLab
