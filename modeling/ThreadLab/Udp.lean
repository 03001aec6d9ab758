import ThreadLab.Fault
import ThreadLab.Ip.Address
import ThreadLab.Text.Utf8

namespace ThreadLab.Udp

inductive Family where
  | inet
  | inet6
deriving DecidableEq

inductive Call where
  | create (family : Family)
  | connect (address : Text) (port : Json)
  | send (bytes : Bytes)
  | close

inductive Stage where
  | creating
  | connecting
  | sending
deriving DecidableEq

structure Failure where
  stage : Stage
  fault : SystemFault
deriving DecidableEq

inductive Receiver where
  | reported (value : Json)
  | known (address : Ip.Address)

namespace Receiver

/-- The value that the address is read from: an address that is known is read from its text. -/
def json : Receiver → Json
  | reported value => value
  | known address => .text address.text

def address (receiver : Receiver) : Except Fault Ip.Address :=
  match Ip.Address.ofJson? receiver.json with
  | some address => .ok address
  | none => .error (.noAddress receiver.json)

end Receiver

def family : Ip.Address → Family
  | .v4 _ => .inet
  | .v6 _ => .inet6

/-- The calls up to the one that fails, and what comes of it. -/
def attempt (failure : Option Failure) : List (Stage × Call) → List Call × Except Fault Unit
  | [] => ([], .ok ())
  | (stage, call) :: calls =>
    match failure with
    | some ⟨failing, fault⟩ =>
      if failing = stage then ([call], .error (.system fault))
      else
        let (made, result) := attempt failure calls
        (call :: made, result)
    | none =>
      let (made, result) := attempt failure calls
      (call :: made, result)

def payload (message : Json) : Except Fault Bytes :=
  match message with
  | .text text => (Text.Utf8.encode text).mapError .surrogates
  | _ => .error .noObject

def exchange (address : Ip.Address) (port message : Json) (failure : Option Failure) :
    List Call × Except Fault Unit :=
  match attempt failure [(.connecting, .connect address.text port)] with
  | (made, .error fault) => (made, .error fault)
  | (made, .ok ()) =>
    match payload message with
    | .error fault => (made, .error fault)
    | .ok bytes =>
      let (sent, result) := attempt failure [(.sending, .send bytes)]
      (made ++ sent, result)

def send (receiver : Receiver) (port message : Json) (failure : Option Failure) :
    List Call × Except Fault Unit :=
  match receiver.address with
  | .error fault => ([], .error fault)
  | .ok address =>
    match attempt failure [(.creating, .create (family address))] with
    | (made, .error fault) => (made, .error fault)
    | (made, .ok ()) =>
      let (used, result) := exchange address port message failure
      (made ++ used ++ [.close], result)

end ThreadLab.Udp
