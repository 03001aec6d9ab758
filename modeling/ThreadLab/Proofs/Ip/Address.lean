import ThreadLab.Ip.Address
import ThreadLab.Proofs.Ip.V4
import ThreadLab.Proofs.Ip.V6.Text

namespace ThreadLab.Ip

theorem V4.parse_of_v6 {text : Text} {address : V6} (read : V6.parse text = .ok address) :
    ∃ fault, V4.parse text = .error fault := by
  cases other : V4.parse text with
  | error fault => exact ⟨fault, rfl⟩
  | ok dotted => exact absurd (V6.colon_mem_of_parse read) (V4.colon_not_mem_of_parse other)

namespace Address

theorem ofText?_of_v6 {text : Text} {address : V6} (read : V6.parse text = .ok address) :
    ofText? text = some (v6 address) := by
  obtain ⟨fault, other⟩ := V4.parse_of_v6 read
  rw [ofText?, other]
  dsimp only
  rw [read]

theorem ofText?_text (address : Address) : ofText? address.text = some address := by
  cases address with
  | v4 address =>
    have read : V4.parse (text (v4 address)) = .ok address := V4.parse_text address
    rw [ofText?, read]
  | v6 address => exact ofText?_of_v6 (V6.parse_text address)

inductive Spells : Text → Address → Prop
  | dotted (address : V4) : Spells address.text (v4 address)
  | grouped {text : Text} {address : V6} (spells : V6.Spells text address) :
    Spells text (v6 address)

theorem ofText?_eq_some_iff {text : Text} {address : Address} :
    ofText? text = some address ↔ Spells text address := by
  constructor
  · intro found
    unfold ofText? at found
    split at found
    · rename_i dotted
      cases found
      rw [V4.parse_eq_ok_iff.mp dotted]
      exact .dotted _
    · split at found
      · rename_i spelled
        cases found
        exact .grouped (V6.parse_eq_ok_iff.mp spelled)
      · cases found
  · intro spells
    cases spells with
    | dotted address => exact ofText?_text (v4 address)
    | grouped spells => exact ofText?_of_v6 (V6.parse_eq_ok_iff.mpr spells)

/-- What stands for an address: a spelling of it, or its number. A truth value is a number too. -/
inductive Denotes : Json → Address → Prop
  | spelled {text : Text} {address : Address} (spells : Spells text address) :
    Denotes (.text text) address
  | short {value : Json} {number : Nat} (whole : value.integer? = some number)
    (fits : number < 1 <<< 32) : Denotes value (v4 ⟨number, fits⟩)
  | long {value : Json} {number : Nat} (whole : value.integer? = some number)
    (large : 1 <<< 32 ≤ number) (fits : number < 1 <<< 128) :
    Denotes value (v6 ⟨number, none, fits⟩)

theorem denotes_of_ofInteger? {value : Json} {number : Int} {address : Address}
    (whole : value.integer? = some number) (found : ofInteger? number = some address) :
    Denotes value address := by
  unfold ofInteger? at found
  split at found
  · rename_i small
    obtain ⟨count, rfl⟩ := Int.eq_ofNat_of_zero_le small.1
    cases found
    exact .short whole (by omega)
  · rename_i other
    obtain ⟨long, read, rfl⟩ := Option.map_eq_some_iff.mp found
    unfold V6.ofInteger at read
    split at read
    · cases read
    · rename_i positive
      split at read
      · rename_i fits
        obtain ⟨count, rfl⟩ := Int.eq_ofNat_of_zero_le (Int.not_lt.mp positive)
        cases read
        exact .long whole (by omega) (by omega)
      · cases read

theorem ofInteger?_of_small {number : Nat} (fits : number < 1 <<< 32) :
    ofInteger? number = some (v4 ⟨number, fits⟩) := by
  have small : 0 ≤ (number : Int) ∧ (number : Int) < (1 <<< 32 : Nat) := by omega
  rw [ofInteger?, dif_pos small]
  rfl

theorem ofInteger?_of_large {number : Nat} (large : 1 <<< 32 ≤ number) (fits : number < 1 <<< 128) :
    ofInteger? number = some (v6 ⟨number, none, fits⟩) := by
  have other : ¬(0 ≤ (number : Int) ∧ (number : Int) < (1 <<< 32 : Nat)) := by omega
  have positive : ¬(number : Int) < 0 := by omega
  have below : (number : Int) < (1 <<< 128 : Nat) := by omega
  rw [ofInteger?, dif_neg other, V6.ofInteger, dif_neg positive, dif_pos below]
  rfl

theorem ofJson?_of_integer? {value : Json} {number : Int} (whole : value.integer? = some number) :
    ofJson? value = ofInteger? number := by
  cases value <;> cases whole <;> rfl

theorem ofJson?_eq_some_iff {value : Json} {address : Address} :
    ofJson? value = some address ↔ Denotes value address := by
  constructor
  · intro found
    unfold ofJson? at found
    split at found
    · exact .spelled (ofText?_eq_some_iff.mp found)
    · obtain ⟨number, whole, read⟩ := Option.bind_eq_some_iff.mp found
      exact denotes_of_ofInteger? whole read
  · intro denotes
    cases denotes with
    | spelled spells => exact ofText?_eq_some_iff.mpr spells
    | short whole fits => rw [ofJson?_of_integer? whole, ofInteger?_of_small fits]
    | long whole large fits => rw [ofJson?_of_integer? whole, ofInteger?_of_large large fits]

end Address

end ThreadLab.Ip
