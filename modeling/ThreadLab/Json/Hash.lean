import ThreadLab.Json.Basic

namespace ThreadLab

inductive Slot where
  | nothing
  | number (rest : Int)
  | text (value : Text)
  | nan
deriving DecidableEq

namespace Slot

def modulus : Nat := 0x1fffffffffffffff

/-- The inverse of 2^exponent modulo the prime, by which 2^61 leaves 1. -/
def inversePower (exponent : Nat) : Nat :=
  1 <<< ((61 - exponent % 61) % 61)

def ofRat (value : Rat) : Slot :=
  let rest : Int := (value.num.natAbs * inversePower value.den.log2 % modulus : Nat)
  let signed := if value < 0 then -rest else rest
  number (if signed = -1 then -2 else signed)

def ofNumber : Number → Slot
  | .finite value => ofRat value
  | .infinite negative => number (if negative then -314159 else 314159)
  | .nan => nan

def ofText (value : Text) : Slot :=
  if value = [] then number 0 else text value

end Slot

def Json.slot? : Json → Option Slot
  | .null => some .nothing
  | .text value => some (.ofText value)
  | value => value.number?.map .ofNumber

end ThreadLab
