import ThreadLab.Packet.RouterAdvertisement

namespace ThreadLab.Packet

open Header

theorem walk_of_short {rest : Bytes} (short : rest.length < 2) : walk rest = [] := by
  rw [walk, if_pos short]

theorem two_le_of_optionSize? {rest : Bytes} {size : Nat} (found : optionSize? rest = some size) :
    2 ≤ rest.length := by
  match rest with
  | [] | [_] => simp [optionSize?] at found
  | _ :: _ :: _ => simp

theorem walk_of_size {rest : Bytes} {size : Nat} (found : optionSize? rest = some size) :
    walk rest = rest :: walk (rest.drop size) := by
  have long : ¬ rest.length < 2 := Nat.not_lt.mpr (two_le_of_optionSize? found)
  rw [walk, if_neg long]
  split
  · rename_i other same
    cases found.symm.trans same
    rfl
  · rename_i none
    cases found.symm.trans none

theorem walk_of_end {rest : Bytes} (long : 2 ≤ rest.length) (ends : optionSize? rest = none) :
    walk rest = [rest] := by
  rw [walk, if_neg (Nat.not_lt.mpr long)]
  split
  · rename_i size found
    cases ends.symm.trans found
  · rfl

theorem prefixOptions_of_size {rest : Bytes} {size : Nat} (found : optionSize? rest = some size) :
    prefixOptions rest = (prefixInformation? rest).toList ++ prefixOptions (rest.drop size) := by
  rw [prefixOptions, walk_of_size found, List.filterMap_cons]
  cases prefixInformation? rest <;> rfl

theorem isPrefixInformation_iff (kind : UInt8) : isPrefixInformation kind = true ↔ kind = 3 := by
  have three : (kind.toNat : Int) = NdOptionType.prefixInformation.number ↔ kind.toNat = 3 := by
    change (kind.toNat : Int) = 3 ↔ _
    omega
  rw [isPrefixInformation, beq_iff_eq, three]
  exact UInt8.toNat_inj (b := 3)

theorem prefixInformation?_other {kind : UInt8} (other : kind ≠ 3) (body : Bytes) :
    prefixInformation? (kind :: body) = none := by
  have no : ¬ isPrefixInformation kind = true := mt (isPrefixInformation_iff kind).mp other
  rw [prefixInformation?, if_neg no]

theorem optionSize?_information {rest body : Bytes} {length : UInt8}
    (begins : rest = 3 :: length :: body) :
    optionSize? rest = if 32 ≤ rest.length then some 32 else none := by
  subst begins
  rfl

theorem optionSize?_other {kind length : UInt8} (other : kind ≠ 3) (body : Bytes) :
    optionSize? (kind :: length :: body) = if length = 0 then none else some (8 * length.toNat) := by
  have no : ¬ isPrefixInformation kind = true := mt (isPrefixInformation_iff kind).mp other
  rw [optionSize?, if_neg no]

/-- All that one step of the walk can do: it passes a whole Prefix Information Option, or another
option by its length byte, which may lead beyond the end. -/
theorem optionSize?_eq_some {rest : Bytes} {size : Nat} (found : optionSize? rest = some size) :
    ∃ kind length body, rest = kind :: length :: body ∧
      (kind = 3 ∧ size = 32 ∧ 32 ≤ rest.length ∨
        kind ≠ 3 ∧ length ≠ 0 ∧ size = 8 * length.toNat) := by
  match rest with
  | [] | [_] => simp [optionSize?] at found
  | kind :: length :: body =>
    refine ⟨kind, length, body, rfl, ?_⟩
    by_cases three : kind = 3
    · subst three
      rw [optionSize?_information rfl] at found
      split at found
      · rename_i whole
        exact .inl ⟨rfl, (Option.some.inj found).symm, whole⟩
      · cases found
    · rw [optionSize?_other three] at found
      split at found
      · cases found
      · rename_i nonzero
        exact .inr ⟨three, nonzero, (Option.some.inj found).symm⟩

theorem optionSize?_units {rest : Bytes} {size : Nat} (found : optionSize? rest = some size) :
    8 ≤ size ∧ 8 ∣ size := by
  obtain ⟨kind, length, body, -, ⟨-, rfl, -⟩ | ⟨-, nonzero, rfl⟩⟩ := optionSize?_eq_some found
  · decide
  · have positive : length.toNat ≠ 0 := fun same => nonzero (UInt8.toNat_inj.mp same)
    omega

theorem prefixInformation?_information {rest body : Bytes} (begins : rest = 3 :: body) :
    prefixInformation? rest = if 32 ≤ rest.length then some (ofBytes (rest.take 32)) else none := by
  subst begins
  have fits : Fits PrefixInformation (3 :: body) 0 ↔ 32 ≤ (3 :: body).length := by
    change (0 : Int) ≤ 0 ∧ (0 : Int) + (32 : Nat) ≤ _ ↔ _
    omega
  change (Header.parse (3 :: body) 0 : Except Truncated PrefixInformation).toOption = _
  rw [Header.parse]
  by_cases whole : 32 ≤ (3 :: body).length
  · rw [if_pos (fits.mpr whole), if_pos whole]
    rfl
  · rw [if_neg (mt fits.mp whole), if_neg whole]
    rfl

theorem prefixOptions_of_end {rest : Bytes} (ends : optionSize? rest = none) :
    prefixOptions rest = [] := by
  by_cases short : rest.length < 2
  · rw [prefixOptions, walk_of_short short]
    rfl
  · rw [prefixOptions, walk_of_end (Nat.not_lt.mp short) ends]
    match rest with
    | [] | [_] => simp at short
    | kind :: length :: body =>
      by_cases three : kind = 3
      · subst three
        rw [optionSize?_information rfl] at ends
        split at ends
        · cases ends
        · rename_i cut
          rw [List.filterMap_cons_none, List.filterMap_nil]
          exact (prefixInformation?_information rfl).trans (if_neg cut)
      · rw [List.filterMap_cons_none, List.filterMap_nil]
        exact prefixInformation?_other three _

/-- What holds where the walk ends, and before an option where it holds after it, holds of any
bytes. -/
theorem walkInduction {motive : Bytes → Prop}
    (ends : ∀ rest, optionSize? rest = none → motive rest)
    (passes : ∀ rest size, optionSize? rest = some size → motive (rest.drop size) → motive rest)
    (rest : Bytes) : motive rest := by
  match found : optionSize? rest with
  | none => exact ends rest found
  | some size => exact passes rest size found (walkInduction ends passes (rest.drop size))
termination_by rest.length
decreasing_by
  obtain ⟨positive, nonempty⟩ := optionSize?_pos found
  have := List.length_pos_iff.mpr nonempty
  rw [List.length_drop]
  omega

theorem optionSize?_append {rest : Bytes} {size : Nat} (found : optionSize? rest = some size)
    (more : Bytes) : optionSize? (rest ++ more) = some size := by
  obtain ⟨kind, length, body, rfl, ⟨rfl, rfl, whole⟩ | ⟨other, nonzero, rfl⟩⟩ :=
    optionSize?_eq_some found
  · rw [List.cons_append, List.cons_append, optionSize?_information rfl, if_pos]
    simp only [List.length_cons, List.length_append] at whole ⊢
    omega
  · rw [List.cons_append, List.cons_append, optionSize?_other other, if_neg nonzero]

theorem prefixInformation?_append {rest : Bytes} {size : Nat}
    (found : optionSize? rest = some size) (more : Bytes) :
    prefixInformation? (rest ++ more) = prefixInformation? rest := by
  obtain ⟨kind, length, body, rfl, ⟨rfl, rfl, whole⟩ | ⟨other, -, -⟩⟩ := optionSize?_eq_some found
  · have longer : 32 ≤ (3 :: length :: body ++ more).length := by
      rw [List.length_append]
      omega
    have begins : 3 :: length :: body ++ more = 3 :: (length :: body ++ more) := rfl
    rw [prefixInformation?_information begins, if_pos longer, prefixInformation?_information rfl,
      if_pos whole, List.take_append_of_le_length whole]
  · rw [List.cons_append, prefixInformation?_other other, prefixInformation?_other other]

theorem prefixOptions_prefix (rest more : Bytes) :
    prefixOptions rest <+: prefixOptions (rest ++ more) := by
  induction rest using walkInduction with
  | ends rest stop =>
    rw [prefixOptions_of_end stop]
    exact List.nil_prefix
  | passes rest size found ih =>
    rw [prefixOptions_of_size found, prefixOptions_of_size (optionSize?_append found more),
      prefixInformation?_append found more]
    apply (List.prefix_append_right_inj _).mpr
    by_cases inside : size ≤ rest.length
    · rwa [List.drop_append_of_le_length inside]
    · -- The option reaches beyond the end, where nothing was found before.
      rw [List.drop_eq_nil_of_le (by omega), prefixOptions_of_end rfl]
      exact List.nil_prefix

end ThreadLab.Packet
