import ThreadLab.Positional
import ThreadLab.Text.Blank
import ThreadLab.Text.DecimalDigit
import ThreadLab.Text.Quoted

namespace ThreadLab.Text.Integer

inductive Fault where
  | malformed (whole : Text)
  | manyDigits (count : Nat)
deriving DecidableEq

def shownWidth : Nat := 200

/-- Numbers with more digits are not read. -/
def mostDigits : Nat := 4300

def Fault.message : Fault → Text
  | malformed whole =>
    "invalid literal for int() with base 10: " ++ (Text.quoted whole).take shownWidth
  | manyDigits count =>
    "Exceeds the limit (" ++ toString mostDigits ++
      " digits) for integer string conversion: value has " ++ toString count ++
      " digits; use sys.set_int_max_str_digits() to increase the limit"

/-- Blanks that may stand around a number: the information separators of ASCII may not. -/
def isMargin (c : CodePoint) : Bool :=
  isBlank c && !(0x1c ≤ c.toNat && c.toNat < 0x20)

def isNumeralPart (c : CodePoint) : Bool :=
  (digitValue? c).isSome || c == '_'

/-- The value of a numeral without a sign that begins `text` and is followed by blanks only. -/
def readDigits (whole text : Text) : Except Fault Nat :=
  let groups := splitAt '_' (text.takeWhile isNumeralPart)
  if groups.any (· = []) then .error (.malformed whole)
  else if mostDigits < groups.flatten.length then .error (.manyDigits groups.flatten.length)
  else if (text.dropWhile isNumeralPart).all isMargin then
    .ok (Positional.ofDigits 10 (groups.flatten.filterMap digitValue?))
  else .error (.malformed whole)

def read (whole : Text) : Except Fault Int :=
  match whole.dropWhile isMargin with
  | [] => .error (.malformed whole)
  | sign :: row =>
    if sign = '-' then (readDigits whole row).map fun value => -(value : Int)
    else if sign = '+' then (readDigits whole row).map fun value => (value : Int)
    else (readDigits whole (sign :: row)).map fun value => (value : Int)

end ThreadLab.Text.Integer
