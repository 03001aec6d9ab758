import ThreadLab.Binary64.Basic

namespace ThreadLab.Binary64

namespace Finite

variable (number : Finite)

def quarters : Nat :=
  4 * number.significand

def lowerEnd : Nat :=
  if number.significand = 1 <<< 52 ∧ number.exponent ≠ -1074 then number.quarters - 1
  else number.quarters - 2

def upperEnd : Nat :=
  number.quarters + 2

def scaleQuarters (power : Int) (count : Nat) : Nat :=
  (count <<< (number.exponent - 2).toNat) * Nat.pow 10 (-power).toNat

def scaleTens (power : Int) (count : Nat) : Nat :=
  (count * Nat.pow 10 power.toNat) <<< (2 - number.exponent).toNat

def readsBack (power : Int) (digits : Nat) : Bool :=
  let here := number.scaleTens power digits
  let low := number.scaleQuarters power number.lowerEnd
  let high := number.scaleQuarters power number.upperEnd
  if number.significand % 2 = 0 then low ≤ here && here ≤ high else low < here && here < high

/-- Of the multiples of `10 ^ power` next to the number, the nearest that reads back. -/
def candidate? (power : Int) : Option Nat :=
  let exact := number.scaleQuarters power number.quarters
  let below := exact / number.scaleTens power 1
  match number.readsBack power below, number.readsBack power (below + 1) with
  | false, false => none
  | true, false => some below
  | false, true => some (below + 1)
  | true, true =>
    let sum := number.scaleTens power below + number.scaleTens power (below + 1)
    some (if 2 * exact < sum ∨ (2 * exact = sum ∧ below % 2 = 0) then below else below + 1)

def raising : Nat := 400

def pointPlace : Int :=
  let raised := ((number.significand <<< number.exponent.toNat) * Nat.pow 10 raising) >>>
    (-number.exponent).toNat
  ((toString raised).length : Int) - raising

def mostDigits : Nat := 17

def selected : Nat × Int :=
  let tries := (List.range mostDigits).map fun (count : Nat) => number.pointPlace - (count + 1)
  (tries.findSome? fun power => (number.candidate? power).map (·, power)).getD
    (number.scaleQuarters 0 number.quarters / number.scaleTens 0 1, 0)

def shortest : List Char × Int :=
  let (digits, power) := number.selected
  let row := (toString digits).toList
  ((row.reverse.dropWhile (· = '0')).reverse, row.length + power)

def zeros (count : Int) : List Char :=
  List.replicate count.toNat '0'

def positional (row : List Char) (place : Int) : List Char :=
  if place ≤ 0 then '0' :: '.' :: zeros (-place) ++ row
  else if row.length ≤ place then row ++ zeros (place - row.length) ++ ['.', '0']
  else row.take place.toNat ++ '.' :: row.drop place.toNat

def scientific (row : List Char) (place : Int) : List Char :=
  let power := place - 1
  let size := (toString power.natAbs).toList
  row.take 1 ++ (if row.length ≤ 1 then [] else '.' :: row.drop 1) ++
    ['e', if power < 0 then '-' else '+'] ++ (if size.length < 2 then '0' :: size else size)

def text : Text :=
  let (row, place) := number.shortest
  let sign : Text := if number.negative then "-" else ""
  let size := if -4 < place ∧ place ≤ 16 then positional row place else scientific row place
  sign ++ Text.ofChars (if number.isZero then ['0', '.', '0'] else size)

end Finite

def text : Binary64 → Text
  | finite number => number.text
  | infinite negative => if negative then "-inf" else "inf"
  | nan => "nan"

end ThreadLab.Binary64
