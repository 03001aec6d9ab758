import ThreadLab.Proofs.Rows
import ThreadLab.Text.Numeral

namespace ThreadLab

namespace Positional

theorem trim_ne_nil {row : List Nat} (some : row ≠ []) : trim row ≠ [] := by
  fun_induction trim row with
  | case1 digit row ih => exact ih (by simp)
  | case2 row => exact some

theorem trim_suffix (row : List Nat) : trim row <:+ row := by
  fun_induction trim row with
  | case1 digit row ih => exact ih.trans (List.suffix_cons 0 _)
  | case2 row => exact List.suffix_refl row

theorem trim_eq_zero_of_head {row : List Nat} (head : (trim row).head? = some 0) :
    trim row = [0] := by
  fun_induction trim row with
  | case1 digit row ih => exact ih head
  | case2 row long =>
    match row with
    | [] => cases head
    | [digit] => simpa using head
    | digit :: next :: row =>
      cases Option.some.inj head
      exact absurd rfl (long next row)

theorem ofDigits_zero_cons (base : Nat) (row : List Nat) :
    ofDigits base (0 :: row) = ofDigits base row := by
  simp [ofDigits]

theorem ofDigits_trim (base : Nat) (row : List Nat) : ofDigits base (trim row) = ofDigits base row := by
  fun_induction trim row with
  | case1 digit row ih => rw [ih, ofDigits_zero_cons]
  | case2 row => rfl

theorem ofDigits_trim_digits {base width number : Nat} (fits : number < Nat.pow base width) :
    ofDigits base (trim (digits base width number)) = number := by
  rw [ofDigits_trim, ofDigits_digits fits]

theorem trim_of_head {row : List Nat} (unpadded : row.head? = some 0 → row = [0]) :
    trim row = row := by
  fun_cases trim row with
  | case1 digit row => cases unpadded rfl
  | case2 row => rfl

theorem trim_zeros_append {row : List Nat} (some : row ≠ []) (count : Nat) :
    trim (List.replicate count 0 ++ row) = trim row := by
  induction count with
  | zero => rfl
  | succ count ih =>
    obtain ⟨digit, others, same⟩ :=
      List.exists_cons_of_ne_nil (List.append_ne_nil_of_right_ne_nil (List.replicate count 0) some)
    rw [List.replicate_succ, List.cons_append, same, trim, ← same, ih]

theorem ofDigits_zeros_append (base count : Nat) (row : List Nat) :
    ofDigits base (List.replicate count 0 ++ row) = ofDigits base row := by
  induction count with
  | zero => rfl
  | succ count ih => rw [List.replicate_succ, List.cons_append, ofDigits_zero_cons, ih]

theorem trim_digits_ofDigits {base width : Nat} {row : List Nat} (positive : 0 < base)
    (below : ∀ digit ∈ row, digit < base) (some : row ≠ []) (short : row.length ≤ width)
    (unpadded : row.head? = .some 0 → row = [0]) :
    trim (digits base width (ofDigits base row)) = row := by
  have padded : ∀ digit ∈ List.replicate (width - row.length) 0 ++ row, digit < base := by
    intro digit member
    rcases List.mem_append.mp member with zero | inside
    · rwa [List.eq_of_mem_replicate zero]
    · exact below digit inside
  have wide : (List.replicate (width - row.length) 0 ++ row).length = width := by
    rw [List.length_append, List.length_replicate]
    omega
  have whole := digits_ofDigits padded
  rw [wide, ofDigits_zeros_append] at whole
  rw [whole, trim_zeros_append some, trim_of_head unpadded]

end Positional

namespace Text

theorem numeral_ne_nil {base width number : Nat} (wide : 0 < width) :
    numeral base width number ≠ [] := by
  have some : Positional.digits base width number ≠ [] := by
    rw [← List.length_pos_iff, Positional.length_digits]
    exact wide
  rw [numeral, ne_eq, List.map_eq_nil_iff]
  exact Positional.trim_ne_nil some

theorem length_numeral_le (base width number : Nat) : (numeral base width number).length ≤ width := by
  have short := (Positional.trim_suffix (Positional.digits base width number)).length_le
  rw [Positional.length_digits] at short
  rwa [numeral, List.length_map]

theorem lt_of_mem_trim_digits {base width number digit : Nat} (positive : 0 < base)
    (member : digit ∈ Positional.trim (Positional.digits base width number)) : digit < base :=
  Positional.lt_of_mem_digits positive ((Positional.trim_suffix _).subset member)

theorem mem_numeral {base width number : Nat} {c : CodePoint} (positive : 0 < base)
    (member : c ∈ numeral base width number) : ∃ digit < base, digitChar digit = c := by
  obtain ⟨digit, inside, same⟩ := List.mem_map.mp member
  exact ⟨digit, lt_of_mem_trim_digits positive inside, same⟩

theorem mapM_numeral {value? : CodePoint → Option Nat} {base : Nat} (positive : 0 < base)
    (reads : ∀ digit < base, value? (digitChar digit) = some digit) (width number : Nat) :
    (numeral base width number).mapM value? =
      some (Positional.trim (Positional.digits base width number)) := by
  apply mapM_map_pure
  intro digit member
  exact reads digit (lt_of_mem_trim_digits positive member)

theorem eq_numeral_of_mapM {value? : CodePoint → Option Nat} {base width : Nat} {part : Text}
    {row : List Nat} (positive : 0 < base)
    (writes : ∀ c digit, value? c = some digit → digit < base ∧ digitChar digit = c)
    (read : part.mapM value? = some row) (some : part ≠ []) (short : part.length ≤ width)
    (unpadded : row.head? = .some 0 → row = [0]) :
    part = numeral base width (Positional.ofDigits base row) := by
  have entries := mapM_eq_some_iff.mp read
  have size := entries.length_eq
  have below : ∀ digit ∈ row, digit < base := by
    intro digit member
    obtain ⟨c, found⟩ := exists_of_forall₂ entries.flip member
    exact (writes c digit found).1
  have written : row.map digitChar = part := by
    rw [← List.forall₂_eq_eq_eq, List.forall₂_map_left_iff]
    exact entries.flip.imp fun digit c found => (writes c digit found).2
  have full : row ≠ [] := by
    rintro rfl
    exact some (List.length_eq_zero_iff.mp size)
  rw [numeral, Positional.trim_digits_ofDigits positive below full (by omega) unpadded, written]

theorem not_mem_numeral {base width number : Nat} (positive : 0 < base) (small : base ≤ 16)
    {c : CodePoint} (foreign : hexValue? c = none) : c ∉ numeral base width number := by
  intro member
  obtain ⟨digit, below, same⟩ := mem_numeral positive member
  have value := hexValue?_digitChar (Nat.lt_of_lt_of_le below small)
  rw [same, foreign] at value
  cases value

end Text

end ThreadLab
