namespace ThreadLab.Positional

/-- The last `width` digits of a number. -/
def digits (base : Nat) : Nat → Nat → List Nat
  | 0, _ => []
  | width + 1, number => digits base width (number / base) ++ [number % base]

def ofDigits (base : Nat) (row : List Nat) : Nat :=
  row.foldl (fun number digit => number * base + digit) 0

def trim : List Nat → List Nat
  | 0 :: digit :: row => trim (digit :: row)
  | row => row

@[simp]
theorem length_digits (base width number : Nat) : (digits base width number).length = width := by
  induction width generalizing number with
  | zero => rfl
  | succ width ih => simp [digits, ih]

theorem lt_of_mem_digits {base width number digit : Nat} (positive : 0 < base)
    (member : digit ∈ digits base width number) : digit < base := by
  induction width generalizing number with
  | zero => simp [digits] at member
  | succ width ih =>
    rcases List.mem_append.mp member with member | member
    · exact ih member
    · rw [List.mem_singleton.mp member]
      exact Nat.mod_lt _ positive

@[simp]
theorem ofDigits_nil (base : Nat) : ofDigits base [] = 0 := rfl

@[simp]
theorem ofDigits_concat (base : Nat) (row : List Nat) (digit : Nat) :
    ofDigits base (row ++ [digit]) = ofDigits base row * base + digit := by
  simp [ofDigits]

theorem ofDigits_digits {base width number : Nat} (fits : number < Nat.pow base width) :
    ofDigits base (digits base width number) = number := by
  induction width generalizing number with
  | zero =>
    have none : number = 0 := Nat.lt_one_iff.mp fits
    simp [digits, none]
  | succ width ih =>
    have high : number / base < Nat.pow base width :=
      Nat.div_lt_of_lt_mul (Nat.mul_comm base _ ▸ fits)
    rw [digits, ofDigits_concat, ih high, Nat.mul_comm]
    exact Nat.div_add_mod number base

private theorem concatInduction {motive : List Nat → Prop} (nil : motive [])
    (concat : ∀ row digit, motive row → motive (row ++ [digit])) (row : List Nat) :
    motive row := by
  rw [← List.reverse_reverse row]
  induction row.reverse with
  | nil => exact nil
  | cons digit row ih => simpa using concat _ digit ih

theorem ofDigits_lt {base : Nat} {row : List Nat} (below : ∀ digit ∈ row, digit < base) :
    ofDigits base row < Nat.pow base row.length := by
  induction row using concatInduction with
  | nil => exact Nat.zero_lt_one
  | concat row digit ih =>
    have high := ih fun other member => below other (List.mem_append_left _ member)
    have low := below digit (by simp)
    rw [ofDigits_concat, List.length_append, List.length_singleton]
    calc ofDigits base row * base + digit < ofDigits base row * base + base := by omega
      _ = (ofDigits base row + 1) * base := by rw [Nat.add_mul, Nat.one_mul]
      _ ≤ Nat.pow base row.length * base := Nat.mul_le_mul_right _ high

theorem digits_ofDigits {base : Nat} {row : List Nat} (below : ∀ digit ∈ row, digit < base) :
    digits base row.length (ofDigits base row) = row := by
  induction row using concatInduction with
  | nil => rfl
  | concat row digit ih =>
    have low := below digit (by simp)
    have before := ih fun other member => below other (List.mem_append_left _ member)
    have quotient : (ofDigits base row * base + digit) / base = ofDigits base row := by
      rw [Nat.mul_comm, Nat.mul_add_div (by omega), Nat.div_eq_of_lt low, Nat.add_zero]
    have remainder : (ofDigits base row * base + digit) % base = digit := by
      rw [Nat.mul_comm, Nat.mul_add_mod, Nat.mod_eq_of_lt low]
    rw [List.length_append, List.length_singleton, digits, ofDigits_concat, quotient, remainder,
      before]

end ThreadLab.Positional
