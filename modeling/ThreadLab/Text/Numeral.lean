import ThreadLab.Positional
import ThreadLab.Text.Basic

namespace ThreadLab.Text

def digitChar (value : Nat) : CodePoint :=
  Char.ofNat (if value < 10 then '0'.toNat + value else 'a'.toNat + value - 10)

def hexDigits (width number : Nat) : Text :=
  (Positional.digits 16 width number).map digitChar

def numeral (base width number : Nat) : Text :=
  (Positional.trim (Positional.digits base width number)).map digitChar

def hexValue? (c : CodePoint) : Option Nat :=
  if '0' ≤ c ∧ c ≤ '9' then some (c.toNat - '0'.toNat)
  else if 'a' ≤ c ∧ c ≤ 'f' then some (c.toNat - 'a'.toNat + 10)
  else if 'A' ≤ c ∧ c ≤ 'F' then some (c.toNat - 'A'.toNat + 10)
  else none

theorem hexValue?_digitChar {value : Nat} (below : value < 16) :
    hexValue? (digitChar value) = some value := by
  have all : ∀ value : Fin 16, hexValue? (digitChar value) = some value.val := by decide
  exact all ⟨value, below⟩

end ThreadLab.Text
