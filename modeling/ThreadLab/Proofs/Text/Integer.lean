import Mathlib.Data.List.Basic
import ThreadLab.Positional
import ThreadLab.Text.DecimalDigit

namespace ThreadLab.Text

def IsAsciiDigit (c : CodePoint) : Prop :=
  0x30 ≤ c.toNat ∧ c.toNat ≤ 0x39

instance : DecidablePred IsAsciiDigit :=
  fun _ => inferInstanceAs (Decidable (_ ∧ _))

theorem ofString_toString (number : Nat) :
    (toString number : Text) = ofChars (Nat.toDigits 10 number) := by
  rw [ofString, Nat.toString_eq_repr, Nat.toList_repr]

theorem isAsciiDigit_of_mem {number : Nat} {c : CodePoint} (member : c ∈ (toString number : Text)) :
    IsAsciiDigit c := by
  rw [ofString_toString] at member
  obtain ⟨digit, inside, rfl⟩ := List.mem_map.mp member
  have isDigit := Nat.isDigit_of_mem_toDigits (by decide) (by decide) inside
  simpa [Char.isDigit, UInt32.le_iff_toNat_le, IsAsciiDigit] using isDigit

theorem not_mem_toString {c : CodePoint} (foreign : ¬IsAsciiDigit c) (number : Nat) :
    c ∉ (toString number : Text) :=
  fun member => foreign (isAsciiDigit_of_mem member)

theorem toString_ne_nil (number : Nat) : (toString number : Text) ≠ [] := by
  rw [ofString_toString]
  exact mt List.map_eq_nil_iff.mp Nat.toDigits_ne_nil

theorem digitValue?_of_ascii {c : CodePoint} (digit : IsAsciiDigit c) :
    digitValue? c = some (c.toNat - 0x30) := by
  obtain ⟨least, most⟩ := digit
  have table : zeroDigits = 0x30 :: zeroDigits.tail := rfl
  rw [digitValue?, table, List.find?_cons_of_pos]
  · rfl
  · simp only [Bool.and_eq_true, decide_eq_true_eq]
    omega

theorem ofDigits_toString (number : Nat) :
    Positional.ofDigits 10 ((toString number : Text).filterMap digitValue?) = number := by
  have values : (toString number : Text).filterMap digitValue? =
      (toString number : Text).map fun c => c.toNat - 0x30 := by
    rw [← List.filterMap_eq_map]
    exact List.filterMap_congr fun c member => digitValue?_of_ascii (isAsciiDigit_of_mem member)
  rw [values, ofString_toString, ofChars, List.map_map, Positional.ofDigits, List.foldl_map]
  simp only [Nat.mul_comm _ 10]
  exact Nat.ofDigitChars_toDigits (by decide) (by decide)

end ThreadLab.Text
