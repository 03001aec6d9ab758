import ThreadLab.Bytes
import ThreadLab.Text.Basic

namespace ThreadLab.Base64

def letter (value : Nat) : CodePoint :=
  if value < 26 then Char.ofNat ('A'.toNat + value)
  else if value < 52 then Char.ofNat ('a'.toNat + (value - 26))
  else if value < 62 then Char.ofNat ('0'.toNat + (value - 52))
  else if value = 62 then '+'
  else '/'

def value? (c : CodePoint) : Option Nat :=
  if 'A' ≤ c ∧ c ≤ 'Z' then some (c.toNat - 'A'.toNat)
  else if 'a' ≤ c ∧ c ≤ 'z' then some (c.toNat - 'a'.toNat + 26)
  else if '0' ≤ c ∧ c ≤ '9' then some (c.toNat - '0'.toNat + 52)
  else if c = '+' then some 62
  else if c = '/' then some 63
  else none

theorem value?_letter {value : Nat} (below : value < 64) : value? (letter value) = some value := by
  have all : ∀ value : Fin 64, value? (letter value) = some value.val := by decide
  exact all ⟨value, below⟩

def encode : Bytes → Text
  | [] => []
  | [a] => [letter (a.toNat / 4), letter (a.toNat % 4 * 16), '=', '=']
  | [a, b] =>
    [letter (a.toNat / 4), letter (a.toNat % 4 * 16 + b.toNat / 16), letter (b.toNat % 16 * 4), '=']
  | a :: b :: c :: rest =>
    letter (a.toNat / 4) :: letter (a.toNat % 4 * 16 + b.toNat / 16) ::
      letter (b.toNat % 16 * 4 + c.toNat / 64) :: letter (c.toNat % 64) :: encode rest

inductive Fault where
  | notAscii
  | lonelyLetter (letters : Nat)
  | unfinishedGroup
deriving DecidableEq

def Fault.message : Fault → Text
  | notAscii => "string argument should contain only ASCII characters"
  | lonelyLetter letters =>
    "Invalid base64-encoded string: number of data characters (" ++ toString letters ++
      ") cannot be 1 more than a multiple of 4"
  | unfinishedGroup => "Incorrect padding"

def scan (letters pads : Nat) : Text → List Nat × Bool
  | [] => ([], false)
  | c :: text =>
    if c = '=' then
      if 2 ≤ letters % 4 ∧ 4 ≤ letters % 4 + pads + 1 then ([], true)
      else scan letters (pads + 1) text
    else
      match value? c with
      | none => scan letters pads text
      | some value =>
        let (values, padded) := scan (letters + 1) 0 text
        (value :: values, padded)

def bytesOf : List Nat → Bytes
  | a :: b :: c :: d :: rest =>
    UInt8.ofNat (a * 4 + b / 16) :: UInt8.ofNat (b % 16 * 16 + c / 4) ::
      UInt8.ofNat (c % 4 * 64 + d) :: bytesOf rest
  | [a, b, c] => [UInt8.ofNat (a * 4 + b / 16), UInt8.ofNat (b % 16 * 16 + c / 4)]
  | [a, b] => [UInt8.ofNat (a * 4 + b / 16)]
  | _ => []

def decode (text : Text) : Except Fault Bytes :=
  if text.any fun c => 128 ≤ c.toNat then .error .notAscii
  else
    let (values, padded) := scan 0 0 text
    if padded ∨ values.length % 4 = 0 then .ok (bytesOf values)
    else if values.length % 4 = 1 then .error (.lonelyLetter values.length)
    else .error .unfinishedGroup

end ThreadLab.Base64
