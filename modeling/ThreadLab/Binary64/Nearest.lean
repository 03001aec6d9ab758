import ThreadLab.Binary64.Basic

namespace ThreadLab.Binary64

/-- The whole number nearest to a quotient, and halfway between two the even one. -/
def roundQuotient (numerator denominator : Nat) : Nat :=
  let quotient := numerator / denominator
  let rest := numerator % denominator
  if 2 * rest < denominator ∨ (2 * rest = denominator ∧ quotient % 2 = 0) then quotient
  else quotient + 1

def leadingPower (numerator denominator : Nat) : Int :=
  let guess : Int := (numerator.log2 : Int) - denominator.log2
  if denominator <<< guess.toNat ≤ numerator <<< (-guess).toNat then guess else guess - 1

def nearestFinite? (negative : Bool) (numerator denominator : Nat) : Option Finite :=
  if numerator = 0 then Finite.ofParts? negative 0 (-1074)
  else
    let exponent := max (leadingPower numerator denominator - 52) (-1074)
    let significand :=
      roundQuotient (numerator <<< (-exponent).toNat) (denominator <<< exponent.toNat)
    if significand = 1 <<< 53 then Finite.ofParts? negative (1 <<< 52) (exponent + 1)
    else Finite.ofParts? negative significand exponent

def nearest (negative : Bool) (numerator denominator : Nat) : Binary64 :=
  match nearestFinite? negative numerator denominator with
  | some number => finite number
  | none => infinite negative

/-- The nearest power of ten to work with: what is above 10^400 is infinite anyway, and what is
below 10^-399 is zero. -/
def workingPower (digits : Nat) (power : Int) : Int :=
  max (-(digits.log2 + 400 : Nat)) (min power 400)

def ofDecimal (negative : Bool) (digits : Nat) (power : Int) : Binary64 :=
  let power := workingPower digits power
  nearest negative (digits * Nat.pow 10 power.toNat) (Nat.pow 10 (-power).toNat)

def ofRat (value : Rat) : Binary64 :=
  nearest (decide (value < 0)) value.num.natAbs value.den

/-- The value of the nearest number; what is beyond all numbers stays as it is. -/
def nearestRat (value : Rat) : Rat :=
  match ofRat value with
  | finite number => number.value
  | _ => value

def roundRat (value : Rat) : Int :=
  let size : Int := roundQuotient value.num.natAbs value.den
  if value < 0 then -size else size

end ThreadLab.Binary64
