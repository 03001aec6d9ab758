import ThreadLab.Text.Quoted
import ThreadLab.Text.Split

namespace ThreadLab.Ip

structure V4 where
  value : Nat
  value_lt : value < 1 <<< 32
deriving DecidableEq

namespace V4

/-- Why a text is no IPv4 address: `whole` is that text, `part` one of its octets. -/
inductive Fault where
  | slash (whole : Text)
  | empty
  | octetCount (whole : Text)
  | emptyOctet (whole : Text)
  | notDigits (part whole : Text)
  | longOctet (part whole : Text)
  | leadingZero (part whole : Text)
  | largeOctet (value : Nat) (whole : Text)
deriving DecidableEq

def Fault.message : Fault → Text
  | slash whole => "Unexpected '/' in " ++ Text.quoted whole
  | empty => "Address cannot be empty"
  | octetCount whole => "Expected 4 octets in " ++ Text.quoted whole
  | emptyOctet whole => "Empty octet not permitted in " ++ Text.quoted whole
  | notDigits part whole =>
    "Only decimal digits permitted in " ++ Text.quoted part ++ " in " ++ Text.quoted whole
  | longOctet part whole =>
    "At most 3 characters permitted in " ++ Text.quoted part ++ " in " ++ Text.quoted whole
  | leadingZero part whole =>
    "Leading zeros are not permitted in " ++ Text.quoted part ++ " in " ++ Text.quoted whole
  | largeOctet value whole =>
    "Octet " ++ toString value ++ " (> 255) not permitted in " ++ Text.quoted whole

def ofNumber (number : Nat) : V4 :=
  ⟨number % (1 <<< 32), Nat.mod_lt _ (by decide)⟩

def octets (address : V4) : List Nat :=
  Positional.digits 256 4 address.value

def decimalValue? (c : CodePoint) : Option Nat :=
  if '0' ≤ c ∧ c ≤ '9' then some (c.toNat - '0'.toNat) else none

def readOctet (whole part : Text) : Except Fault Nat :=
  if part = [] then .error (.emptyOctet whole)
  else match part.mapM decimalValue? with
    | none => .error (.notDigits part whole)
    | some row =>
      if 3 < part.length then .error (.longOctet part whole)
      else if part ≠ "0" ∧ part.head? = some (CodePoint.ofChar '0') then
        .error (.leadingZero part whole)
      else
        let value := Positional.ofDigits 10 row
        if 255 < value then .error (.largeOctet value whole) else .ok value

def parse (text : Text) : Except Fault V4 :=
  if ('/' : CodePoint) ∈ text then .error (.slash text)
  else if text = [] then .error .empty
  else
    let parts := Text.splitAt '.' text
    if parts.length ≠ 4 then .error (.octetCount text)
    else do
      let octets ← parts.mapM (readOctet text)
      return ofNumber (Positional.ofDigits 256 octets)

def text (address : V4) : Text :=
  Text.join '.' (address.octets.map (Text.numeral 10 3))

end V4

end ThreadLab.Ip
