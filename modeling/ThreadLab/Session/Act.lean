import ThreadLab.Polling
import ThreadLab.Session.Lab
import ThreadLab.Text.Utf8

namespace ThreadLab

abbrev Act := ExceptT Fault (StateM Lab)

namespace Act

variable {α β : Type}

theorem bind_of_ok {act : Act α} {next : α → Act β} {lab after : Lab} {value : α}
    (ran : act lab = (.ok value, after)) : (act >>= next) lab = next value after := by
  change ExceptT.bindCont next (act lab).1 (act lab).2 = _
  rw [ran]
  rfl

theorem bind_of_error {act : Act α} {next : α → Act β} {lab after : Lab} {fault : Fault}
    (ran : act lab = (.error fault, after)) : (act >>= next) lab = (.error fault, after) := by
  change ExceptT.bindCont next (act lab).1 (act lab).2 = _
  rw [ran]
  rfl

def ofExcept (result : Except Fault α) : Act α :=
  fun lab => (result, lab)

def record (call : Call) : Act Unit :=
  fun lab => (.ok (), lab.record call)

def log (text : Text) : Act Unit :=
  fun lab => (.ok (), { lab with logs := lab.logs ++ [text] })

def device (place : Nat) : Act Device :=
  fun lab => (.ok (lab.device place), lab)

def rename (place : Nat) (part : Text) : Act Unit :=
  fun lab => (.ok (), { lab with devices := lab.devices.modify place fun device =>
    { device with tag := device.serial ++ "(" ++ part ++ ")" } })

def millis : Act Int :=
  fun lab => (.ok lab.millis, lab)

def check (holds : Bool) : Act Unit :=
  if holds then pure () else throw .checkFailed

/-- Runs `cleanup` after `body` whatever came of it; a fault of the cleanup is the one that
counts. -/
def andThen (body : Act α) (cleanup : Act Unit) : Act α := fun lab =>
  match body lab with
  | (result, after) =>
    match cleanup after with
    | (.ok (), last) => (result, last)
    | (.error fault, last) => (.error fault, last)

/-- Turns the timeout of a wait into another fault, made from the text of the timeout. -/
def onTimeout (body : Act α) (instead : Text → Fault) : Act α := fun lab =>
  match body lab with
  | (.error (.snippet .timeout label text), after) =>
    (.error (instead (labelled label text)), after)
  | (result, after) => (result, after)

def waitFor (condition : Act Bool) (limit : Duration) : Act Unit := fun lab =>
  let outcome := Polling.waitFor
    (fun before =>
      let (answer, after) := condition before
      { answer, duration := (after.now - before.now).toNat, state := after })
    (fun nap before => before.sleep nap) limit lab.now lab lab.clock
  (outcome.result, outcome.state)

def shell (place : Nat) (command : Text) : Act Bytes := do
  let device ← device place
  record (.shell device.serial command)
  fun lab =>
    let replies := lab.script.shell
    let rest := if replies.length ≤ 1 then replies else replies.drop 1
    let after := { lab with script := { lab.script with shell := rest } }
    (replies.head?.getD (.ok []), after)

def shellText (place : Nat) (command : Text) : Act Text := do
  let bytes ← shell place command
  ofExcept ((Text.Utf8.decode bytes).mapError .noText)

def scriptedFault (device : Device) (name : Text) : Act Unit := fun lab =>
  match lab.script.requestFaults.lookup name with
  | some text => (.error (.snippet .request device.label text), lab)
  | none => (.ok (), lab)

def request (place : Nat) (name : Text) (arguments : List Json) : Act Json := do
  let device ← device place
  record (.request device.serial name arguments)
  scriptedFault device name
  fun lab => (.ok ((lab.script.requestResults.lookup name).getD .null), lab)

/-- Sends a request that registers a callback, and gives the place of its handler. -/
def register (place : Nat) (name : Text) (arguments : List Json) : Act Nat := do
  let device ← device place
  record (.request device.serial name arguments)
  scriptedFault device name
  fun lab =>
    let outlook := lab.script.outlooks.head?.getD {}
    (.ok lab.handlers.length,
      { lab with
        handlers := lab.handlers ++ [⟨place, lab.nextCallback place, outlook⟩],
        script := { lab.script with outlooks := lab.script.outlooks.drop 1 } })

def handler (place : Nat) : Act Handler := fun lab =>
  match lab.handlers[place]? with
  | some handler => (.ok handler, lab)
  | none => (.error .noSuchPlace, lab)

def handlerAt (device : Nat) (index : Int) : Act Nat := fun lab =>
  match entryAt? (lab.handlersOf device) index with
  | some place => (.ok place, lab)
  | none => (.error .noSuchPlace, lab)

/-- Removes the events of a name up to the first that is accepted; events of other names stay. -/
def takeEvent (name : Text) (accepts : Json → Except Fault Bool) :
    List Event → Except Fault (Option Event) × List Event
  | [] => (.ok none, [])
  | event :: events =>
    if event.name = name then
      match accepts event.data with
      | .error fault => (.error fault, events)
      | .ok true => (.ok (some event), events)
      | .ok false => takeEvent name accepts events
    else
      let (found, left) := takeEvent name accepts events
      (found, event :: left)

def await (kind : WaitKind) (place : Nat) (name : Text) (accepts : Json → Except Fault Bool)
    (limit : Duration) : Act Json := do
  let handler ← handler place
  let device ← device handler.device
  record (.wait kind device.serial handler.callback name limit)
  match handler.outlook.fault with
  | some (fault, text) => throw (.snippet fault device.label text)
  | none =>
    fun lab =>
      let (found, left) := takeEvent name accepts handler.outlook.events
      let outlook := { handler.outlook with events := left }
      let after := { lab with handlers := lab.handlers.set place { handler with outlook } }
      match found with
      | .error fault => (.error fault, after)
      | .ok (some event) => (.ok event.data, after)
      | .ok none => (.error (.snippet .timeout device.label outlook.timeoutText), after)

def awaitFirst (place : Nat) (name : Text) (limit : Duration) : Act Json :=
  await .first place name (fun _ => .ok true) limit

def awaitMatch (place : Nat) (name : Text) (accepts : Json → Except Fault Bool)
    (limit : Duration) : Act Json :=
  await .matching place name accepts limit

/-- Registers a callback, uses its handler, and unregisters it whatever came of that. -/
def withCallback (place : Nat) (name : Text) (arguments : List Json) (undo : Text)
    (use : Nat → Act α) : Act α := do
  let handlerPlace ← register place name arguments
  let handler ← handler handlerPlace
  andThen (use handlerPlace) (do let _ ← request place undo [.text handler.callback])

end Act

def Event.field (data : Json) (key : Text) : Except Fault Json :=
  match data with
  | .object fields =>
    match fields.lookup key with
    | some value => .ok value
    | none => .error (.unknownKey key)
  | _ => .error .wrongKind

end ThreadLab
