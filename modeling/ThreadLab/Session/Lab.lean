import ThreadLab.Fault

namespace ThreadLab

structure Event where
  name : Text
  data : Json

def callbackName (number : Nat) : Text :=
  "1-" ++ toString number

/-- The tag names the device in messages. The server on it names the callbacks that are registered,
which are counted from one on. -/
structure Device where
  serial : Text
  tag : Text
  build : List (Text × Json) := []
  callback : Nat → Text := callbackName

instance : Inhabited Device :=
  ⟨{ serial := [], tag := [] }⟩

def Device.label (device : Device) : Text :=
  "<AndroidDevice|" ++ device.tag ++ ">"

/-- What waits on a callback will meet: its events, the text of a timeout, and a fault that every
wait ends in. -/
structure Outlook where
  events : List Event := []
  timeoutText : Text := "Timed out."
  fault : Option (SnippetFault × Text) := none

structure Handler where
  device : Nat
  callback : Text
  outlook : Outlook

abbrev ShellReply := Except Fault Bytes

structure Script where
  shell : List ShellReply := []
  outlooks : List Outlook := []
  requestFaults : List (Text × Text) := []
  requestResults : List (Text × Json) := []

inductive WaitKind where
  | first
  | matching
deriving DecidableEq

inductive Call where
  | shell (serial command : Text)
  | request (serial name : Text) (arguments : List Json)
  | wait (kind : WaitKind) (serial callback event : Text) (limit : Duration)
  | load (serial name package : Text)
  | sleep (micros : Nat)

structure Lab where
  devices : List Device
  now : Int := 0
  clock : Clock := .stepped
  handlers : List Handler := []
  script : Script := {}
  calls : List Call := []
  logs : List Text := []

namespace Lab

def ofSerials (serials : List Text) (build : List (Text × Json)) (now : Int) : Lab where
  devices := serials.map fun serial => { serial, tag := serial, build }
  now := now

def begin (lab : Lab) (script : Script) : Lab :=
  { lab with script, calls := [], logs := [] }

def millis (lab : Lab) : Int :=
  lab.clock.millis lab.now

def device (lab : Lab) (place : Nat) : Device :=
  lab.devices[place]?.getD default

/-- The places of the handlers of a device, in the order in which they were registered. -/
def handlersOf (lab : Lab) (device : Nat) : List Nat :=
  lab.handlers.zipIdx.filterMap fun (handler, place) =>
    if handler.device = device then some place else none

def nextCallback (lab : Lab) (device : Nat) : Text :=
  (lab.device device).callback ((lab.handlersOf device).length + 1)

def record (lab : Lab) (call : Call) : Lab :=
  { lab with calls := lab.calls ++ [call] }

def sleep (lab : Lab) (micros : Nat) : Lab :=
  { lab.record (.sleep micros) with now := lab.now + micros }

end Lab

/-- The entry of a row at an index, which counts from the end if it is negative. -/
def entryAt? {α : Type} (row : List α) (index : Int) : Option α :=
  let place := if index < 0 then row.length + index else index
  if 0 ≤ place then row[place.toNat]? else none

end ThreadLab
