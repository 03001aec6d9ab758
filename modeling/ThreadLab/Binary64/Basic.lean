import ThreadLab.Number

namespace ThreadLab

namespace Binary64

/-- The number `significand * 2 ^ exponent` under a sign. Every number has one such form but zero,
which has two signs. -/
structure Finite where
  negative : Bool
  significand : Nat
  exponent : Int
  significand_lt : significand < 1 <<< 53
  exponent_ge : -1074 ≤ exponent
  exponent_le : exponent ≤ 971
  normal : 1 <<< 52 ≤ significand ∨ exponent = -1074
deriving DecidableEq

namespace Finite

def ofParts? (negative : Bool) (significand : Nat) (exponent : Int) : Option Finite :=
  if form : significand < 1 <<< 53 ∧ -1074 ≤ exponent ∧ exponent ≤ 971 ∧
      (1 <<< 52 ≤ significand ∨ exponent = -1074) then
    some ⟨negative, significand, exponent, form.1, form.2.1, form.2.2.1, form.2.2.2⟩
  else none

def isZero (number : Finite) : Bool :=
  number.significand == 0

def signed (number : Finite) (size : Nat) : Int :=
  if number.negative then -(size : Int) else size

def value (number : Finite) : Rat :=
  mkRat (number.signed (number.significand <<< number.exponent.toNat))
    (1 <<< (-number.exponent).toNat)

end Finite

end Binary64

inductive Binary64 where
  | finite (number : Binary64.Finite)
  | infinite (negative : Bool)
  | nan
deriving DecidableEq

namespace Binary64

def isZero : Binary64 → Bool
  | finite number => number.isZero
  | _ => false

def number : Binary64 → Number
  | finite number => .finite number.value
  | infinite negative => .infinite negative
  | nan => .nan

end Binary64

end ThreadLab
