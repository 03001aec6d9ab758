import ThreadLab.Ip.V6.Parser
import ThreadLab.Ip.V6.Printer
import ThreadLab.Json.Basic

namespace ThreadLab.Ip

inductive Address where
  | v4 (address : V4)
  | v6 (address : V6)
deriving DecidableEq

namespace Address

def version : Address → Nat
  | v4 _ => 4
  | v6 _ => 6

def text : Address → Text
  | v4 address => address.text
  | v6 address => address.text

def ofText? (text : Text) : Option Address :=
  match V4.parse text with
  | .ok address => some (v4 address)
  | .error _ =>
    match V6.parse text with
    | .ok address => some (v6 address)
    | .error _ => none

/-- A number below 2^32 is an IPv4 address, and one below 2^128 an IPv6 address. -/
def ofInteger? (number : Int) : Option Address :=
  if small : 0 ≤ number ∧ number < (1 <<< 32 : Nat) then some (v4 ⟨number.toNat, by omega⟩)
  else (V6.ofInteger number).toOption.map v6

def ofJson? (value : Json) : Option Address :=
  match value with
  | .text text => ofText? text
  | value => value.integer?.bind ofInteger?

end Address

end ThreadLab.Ip
