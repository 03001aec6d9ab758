import ThreadLab.Ip.V6.Printer

namespace ThreadLab.Ip

structure PrefixLengthFault where
  length : Int
deriving DecidableEq

def PrefixLengthFault.message (fault : PrefixLengthFault) : Text :=
  toString fault.length ++ " is not a valid netmask"

structure Network where
  address : V6
  length : Nat
  length_le : length ≤ 128
deriving DecidableEq

namespace Network

/-- The number with all but its first `length` of 128 bits cleared. -/
def truncate (length value : Nat) : Nat :=
  (value >>> (128 - length)) <<< (128 - length)

theorem truncate_le (length value : Nat) : truncate length value ≤ value := by
  rw [truncate, Nat.shiftLeft_eq, Nat.shiftRight_eq_div_pow]
  exact Nat.div_mul_le_self _ _

/-- The first address of the network of an address: that address itself, or one without a scope. -/
def firstAddress (length : Nat) (address : V6) : V6 where
  value := truncate length address.value
  scope := if truncate length address.value = address.value then address.scope else none
  value_lt := Nat.lt_of_le_of_lt (truncate_le _ _) address.value_lt

def around (address : V6) (length : Int) : Except PrefixLengthFault Network :=
  if bounds : 0 ≤ length ∧ length ≤ 128 then
    .ok ⟨firstAddress length.toNat address, length.toNat, by omega⟩
  else .error ⟨length⟩

def contains (network : Network) (address : V6) : Bool :=
  truncate network.length address.value == network.address.value

def text (network : Network) : Text :=
  network.address.text ++ "/" ++ toString network.length

def linkLocal : Network :=
  ⟨⟨0xfe80 <<< 112, none, by decide⟩, 10, by decide⟩

end Network

def V6.isLinkLocal (address : V6) : Bool :=
  Network.linkLocal.contains address

end ThreadLab.Ip
