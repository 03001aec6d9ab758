import ThreadLab.Text.Basic

namespace ThreadLab

inductive Number where
  | finite (value : Rat)
  | infinite (negative : Bool)
  | nan
deriving DecidableEq

namespace Number

def ofInt (value : Int) : Number :=
  finite (Rat.ofInt value)

def truncate (value : Rat) : Int :=
  value.num.tdiv value.den

def isAtMost (number : Number) (bound : Int) : Bool :=
  match number with
  | finite value => value ≤ Rat.ofInt bound
  | infinite negative => negative
  | nan => false

inductive Unbounded where
  | infinite
  | nan
deriving DecidableEq

def Unbounded.message : Unbounded → Text
  | infinite => "cannot convert float infinity to integer"
  | nan => "cannot convert float NaN to integer"

def bounded : Number → Except Unbounded Rat
  | finite value => .ok value
  | infinite _ => .error .infinite
  | nan => .error .nan

theorem ofInt_inj {left right : Int} (equal : ofInt left = ofInt right) : left = right :=
  congrArg Rat.num (finite.inj equal)

end Number

end ThreadLab
