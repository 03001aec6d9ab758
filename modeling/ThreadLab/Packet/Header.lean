import ThreadLab.Bytes
import ThreadLab.Text.Basic

namespace ThreadLab.Packet

structure Truncated where
  header : Text
  size : Nat
  offset : Int
  available : Nat
deriving DecidableEq

def Truncated.message (fault : Truncated) : Text :=
  fault.header ++ " needs " ++ toString fault.size ++ " bytes at offset " ++
    toString fault.offset ++ ", but the buffer has " ++ toString fault.available ++ " bytes."

/-- A number in its bytes, unless it is negative or too large for them. -/
def field? (width : Nat) (value : Int) : Option Bytes :=
  if 0 ≤ value ∧ value < (Nat.pow 256 width : Nat) then
    some (Bytes.ofNumber width value.toNat)
  else none

/-- A kind of header: its size in bytes, and how it is read from that many bytes and written to
them. A number that does not fit its field cannot be written. -/
class Header (α : Type) where
  title : Text
  size : Nat
  ofBytes : Bytes → α
  toBytes? : α → Option Bytes

namespace Header

variable (α : Type) [Header α]

def Fits (buffer : Bytes) (offset : Int) : Prop :=
  0 ≤ offset ∧ offset + size α ≤ buffer.length

instance (buffer : Bytes) (offset : Int) : Decidable (Fits α buffer offset) :=
  inferInstanceAs (Decidable (_ ∧ _))

variable {α}

def parse (buffer : Bytes) (offset : Int) : Except Truncated α :=
  if Fits α buffer offset then .ok (ofBytes (buffer.slice offset.toNat (size α)))
  else .error ⟨title α, size α, offset, buffer.length⟩

end Header

end ThreadLab.Packet
