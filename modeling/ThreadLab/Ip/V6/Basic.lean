import ThreadLab.Bytes
import ThreadLab.Text.Basic

namespace ThreadLab.Ip

def scopeMark : CodePoint := '%'

structure Scope where
  text : Text
  nonempty : text ≠ []
  no_mark : scopeMark ∉ text
  no_slash : ('/' : CodePoint) ∉ text
deriving DecidableEq

def Scope.ofText? (text : Text) : Option Scope :=
  if valid : text ≠ [] ∧ scopeMark ∉ text ∧ ('/' : CodePoint) ∉ text then
    some ⟨text, valid.1, valid.2.1, valid.2.2⟩
  else none

structure V6 where
  value : Nat
  scope : Option Scope
  value_lt : value < 1 <<< 128
deriving DecidableEq

namespace V6

def ofNumber (number : Nat) : V6 :=
  ⟨number % (1 <<< 128), none, Nat.mod_lt _ (by decide)⟩

def withoutScope (address : V6) : V6 :=
  { address with scope := none }

def groups (address : V6) : List Nat :=
  Positional.digits 65536 8 address.value

def ofGroups (groups : List Nat) : V6 :=
  ofNumber (Positional.ofDigits 65536 groups)

def packed (address : V6) : Bytes :=
  Bytes.ofNumber 16 address.value

def ofPacked (bytes : Bytes) : V6 :=
  ofNumber (Bytes.number bytes)

@[simp]
theorem length_packed (address : V6) : address.packed.length = 16 := by
  simp [packed]

theorem number_packed (address : V6) : Bytes.number address.packed = address.value :=
  Bytes.number_ofNumber (show address.value < Nat.pow 256 16 from address.value_lt)

theorem ofPacked_packed (address : V6) : ofPacked address.packed = address.withoutScope := by
  rw [ofPacked, number_packed, ofNumber, withoutScope]
  congr
  exact Nat.mod_eq_of_lt address.value_lt

theorem value_ofPacked {bytes : Bytes} (size : bytes.length = 16) :
    (ofPacked bytes).value = Bytes.number bytes := by
  have small := Bytes.number_lt bytes
  rw [size] at small
  exact Nat.mod_eq_of_lt (show Bytes.number bytes < 1 <<< 128 from small)

theorem packed_ofPacked {bytes : Bytes} (size : bytes.length = 16) :
    (ofPacked bytes).packed = bytes := by
  have back := Bytes.ofNumber_number bytes
  rw [size] at back
  rw [packed, value_ofPacked size, back]

end V6

end ThreadLab.Ip
