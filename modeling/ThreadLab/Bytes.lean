import ThreadLab.Positional

namespace ThreadLab

abbrev Bytes := List UInt8

namespace Bytes

def ofNumber (width number : Nat) : Bytes :=
  (Positional.digits 256 width number).map UInt8.ofNat

def number (bytes : Bytes) : Nat :=
  Positional.ofDigits 256 (bytes.map UInt8.toNat)

def slice (bytes : Bytes) (start size : Nat) : Bytes :=
  (bytes.drop start).take size

@[simp]
theorem length_ofNumber (width number : Nat) : (ofNumber width number).length = width := by
  simp [ofNumber]

theorem number_ofNumber {width value : Nat} (fits : value < Nat.pow 256 width) :
    number (ofNumber width value) = value := by
  have same : ((Positional.digits 256 width value).map UInt8.ofNat).map UInt8.toNat =
      Positional.digits 256 width value := by
    rw [List.map_map, ← List.map_id (Positional.digits 256 width value), List.map_map]
    apply List.map_congr_left
    intro digit member
    have below := Positional.lt_of_mem_digits (by decide) member
    simp [Nat.mod_eq_of_lt below]
  rw [number, ofNumber, same, Positional.ofDigits_digits fits]

theorem digits_lt (bytes : Bytes) : ∀ digit ∈ bytes.map UInt8.toNat, digit < 256 := by
  intro digit member
  obtain ⟨byte, _, rfl⟩ := List.mem_map.mp member
  exact byte.toNat_lt

theorem number_lt (bytes : Bytes) : number bytes < Nat.pow 256 bytes.length := by
  have bound := Positional.ofDigits_lt (digits_lt bytes)
  rwa [List.length_map] at bound

theorem ofNumber_number (bytes : Bytes) : ofNumber bytes.length (number bytes) = bytes := by
  have row := Positional.digits_ofDigits (digits_lt bytes)
  rw [List.length_map] at row
  rw [ofNumber, number, row, List.map_map]
  simp [Function.comp_def]

end Bytes

end ThreadLab
