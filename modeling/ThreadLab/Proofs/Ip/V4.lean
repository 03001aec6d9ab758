import ThreadLab.Ip.V4
import ThreadLab.Proofs.Text.Join
import ThreadLab.Proofs.Text.Numeral

namespace ThreadLab.Ip.V4

theorem decimalValue?_digitChar {digit : Nat} (below : digit < 10) :
    decimalValue? (Text.digitChar digit) = some digit := by
  have all : ∀ digit : Fin 10, decimalValue? (Text.digitChar digit) = some digit.val := by decide
  exact all ⟨digit, below⟩

theorem toNat_digitChar {digit : Nat} (below : digit < 10) :
    (Text.digitChar digit).toNat = 48 + digit := by
  have all : ∀ digit : Fin 10, (Text.digitChar digit).toNat = 48 + digit.val := by decide
  exact all ⟨digit, below⟩

theorem digitChar_of_decimalValue? {c : CodePoint} {digit : Nat}
    (read : decimalValue? c = some digit) : digit < 10 ∧ Text.digitChar digit = c := by
  obtain ⟨code, inside⟩ := c
  unfold decimalValue? at read
  split at read
  · rename_i range
    have low : 48 ≤ code := range.1
    have high : code ≤ 57 := range.2
    have value : code - 48 = digit := Option.some.inj read
    have below : digit < 10 := by omega
    have same : (Text.digitChar digit).toNat = code := by
      rw [toNat_digitChar below]
      omega
    refine ⟨below, ?_⟩
    subst same
    rfl
  · cases read

theorem zero_of_digitChar {digit : Nat} (below : digit < 10)
    (zero : Text.digitChar digit = CodePoint.ofChar '0') : digit = 0 := by
  have read := decimalValue?_digitChar below
  rw [zero] at read
  exact (Option.some.inj read).symm

theorem readOctet_numeral (whole : Text) {octet : Nat} (below : octet < 256) :
    readOctet whole (Text.numeral 10 3 octet) = .ok octet := by
  have fits : octet < Nat.pow 10 3 := Nat.lt_trans below (by decide)
  have some : Text.numeral 10 3 octet ≠ [] := Text.numeral_ne_nil (by decide)
  have digits : (Text.numeral 10 3 octet).mapM decimalValue? = .some _ :=
    Text.mapM_numeral (by decide) (fun _ => decimalValue?_digitChar) 3 octet
  have short : ¬ 3 < (Text.numeral 10 3 octet).length :=
    Nat.not_lt.mpr (Text.length_numeral_le 10 3 octet)
  have unpadded : ¬ (Text.numeral 10 3 octet ≠ "0" ∧
      (Text.numeral 10 3 octet).head? = .some (CodePoint.ofChar '0')) := by
    rintro ⟨long, head⟩
    rw [Text.numeral, List.head?_map, Option.map_eq_some_iff] at head
    obtain ⟨digit, first, zero⟩ := head
    have small := Text.lt_of_mem_trim_digits (by decide) (List.mem_of_head? first)
    rw [zero_of_digitChar small zero] at first
    apply long
    rw [Text.numeral, Positional.trim_eq_zero_of_head first]
    rfl
  have large : ¬ 255 < octet := by omega
  rw [readOctet, if_neg some, digits]
  dsimp only
  rw [if_neg short, if_neg unpadded, Positional.ofDigits_trim_digits fits, if_neg large]

theorem octets_lt (address : V4) : ∀ octet ∈ address.octets, octet < 256 :=
  fun _ => Positional.lt_of_mem_digits (by decide)

theorem ofNumber_octets (address : V4) :
    ofNumber (Positional.ofDigits 256 address.octets) = address := by
  have fits : address.value < Nat.pow 256 4 := address.value_lt
  have same : address.value % (1 <<< 32) = address.value := Nat.mod_eq_of_lt address.value_lt
  rw [octets, Positional.ofDigits_digits fits]
  cases address
  simpa [ofNumber] using same

theorem splitAt_text (address : V4) :
    Text.splitAt '.' address.text = address.octets.map (Text.numeral 10 3) := by
  apply Text.splitAt_join
  · simp [octets, Positional.digits]
  · intro piece member
    obtain ⟨octet, -, rfl⟩ := List.mem_map.mp member
    exact Text.not_mem_numeral (by decide) (by decide) (by decide)

theorem not_mem_text {c : CodePoint} (foreign : Text.hexValue? c = none) (noDot : c ≠ '.')
    (address : V4) : c ∉ address.text := by
  intro member
  rcases Text.mem_join member with dot | ⟨piece, inside, found⟩
  · exact noDot dot
  · obtain ⟨octet, -, rfl⟩ := List.mem_map.mp inside
    exact Text.not_mem_numeral (by decide) (by decide) foreign found

theorem dot_mem_text (address : V4) : ('.' : CodePoint) ∈ address.text := by
  have pieces := splitAt_text address
  apply Decidable.byContradiction
  intro clean
  rw [Text.splitAt_of_not_mem clean] at pieces
  have count := congrArg List.length pieces
  simp [octets] at count

theorem parse_text (address : V4) : parse address.text = .ok address := by
  have pieces := splitAt_text address
  have some : address.text ≠ [] := List.ne_nil_of_mem (dot_mem_text address)
  have four : (Text.splitAt '.' address.text).length = 4 := by
    rw [pieces]
    simp [octets]
  have read : (Text.splitAt '.' address.text).mapM (readOctet address.text) =
      .ok address.octets := by
    rw [pieces]
    apply mapM_map_pure
    intro octet member
    exact readOctet_numeral _ (octets_lt address octet member)
  rw [parse, if_neg (not_mem_text (by decide) (by decide) address), if_neg some]
  dsimp only
  rw [if_neg (not_not_intro four), read]
  exact congrArg Except.ok (ofNumber_octets address)

theorem eq_zero_of_head {part : Text} {row : List Nat} (digits : part.mapM decimalValue? = some row)
    (unpadded : ¬(part ≠ "0" ∧ part.head? = some (CodePoint.ofChar '0')))
    (head : row.head? = some 0) : row = [0] := by
  have zero : part.head? = some (CodePoint.ofChar '0') := by
    cases mapM_eq_some_iff.mp digits with
    | nil => cases head
    | cons first rest =>
      cases Option.some.inj head
      rw [List.head?_cons, ← (digitChar_of_decimalValue? first).2]
      rfl
  have single : part = "0" := by
    apply Decidable.byContradiction
    intro long
    exact unpadded ⟨long, zero⟩
  rw [single] at digits
  cases digits
  rfl

theorem readOctet_eq_ok_iff {whole part : Text} {octet : Nat} :
    readOctet whole part = .ok octet ↔ octet < 256 ∧ part = Text.numeral 10 3 octet := by
  constructor
  · intro read
    rw [readOctet] at read
    obtain ⟨some, read⟩ := guard_eq_ok.mp read
    cases digits : part.mapM decimalValue? with
    | none =>
      rw [digits] at read
      cases read
    | some row =>
      rw [digits] at read
      obtain ⟨short, read⟩ := guard_eq_ok.mp read
      obtain ⟨unpadded, read⟩ := guard_eq_ok.mp read
      obtain ⟨small, read⟩ := guard_eq_ok.mp read
      cases read
      refine ⟨by omega, Text.eq_numeral_of_mapM (by decide)
        (fun _ _ => digitChar_of_decimalValue?) digits some (by omega) ?_⟩
      exact eq_zero_of_head digits unpadded
  · rintro ⟨below, rfl⟩
    exact readOctet_numeral whole below

theorem octets_ofNumber {octets : List Nat} (four : octets.length = 4)
    (below : ∀ octet ∈ octets, octet < 256) :
    (ofNumber (Positional.ofDigits 256 octets)).octets = octets := by
  have fits := Positional.ofDigits_lt below
  have back := Positional.digits_ofDigits below
  rw [four] at fits back
  have same : Positional.ofDigits 256 octets % (1 <<< 32) = Positional.ofDigits 256 octets :=
    Nat.mod_eq_of_lt fits
  show Positional.digits 256 4 (Positional.ofDigits 256 octets % (1 <<< 32)) = octets
  rw [same, back]

/-- An IPv4 address has one text only. -/
theorem parse_eq_ok_iff {text : Text} {address : V4} :
    parse text = .ok address ↔ text = address.text := by
  constructor
  · intro read
    rw [parse] at read
    obtain ⟨-, read⟩ := guard_eq_ok.mp read
    obtain ⟨-, read⟩ := guard_eq_ok.mp read
    obtain ⟨four, read⟩ := guard_eq_ok.mp read
    obtain ⟨octets, found, same⟩ := bind_eq_ok.mp read
    cases same
    have entries := mapM_eq_ok_iff.mp found
    have size : octets.length = 4 := entries.length_eq.symm.trans (not_not.mp four)
    have below : ∀ octet ∈ octets, octet < 256 := by
      intro octet member
      obtain ⟨part, partRead⟩ := exists_of_forall₂ entries.flip member
      exact (readOctet_eq_ok_iff.mp partRead).1
    have pieces : octets.map (Text.numeral 10 3) = Text.splitAt '.' text := by
      rw [← List.forall₂_eq_eq_eq, List.forall₂_map_left_iff]
      exact entries.flip.imp fun octet part partRead => (readOctet_eq_ok_iff.mp partRead).2.symm
    rw [V4.text, octets_ofNumber size below, pieces, Text.join_splitAt]
  · rintro rfl
    exact parse_text address

theorem colon_not_mem_of_parse {text : Text} {address : V4} (read : parse text = .ok address) :
    (':' : CodePoint) ∉ text := by
  rw [parse_eq_ok_iff.mp read]
  exact not_mem_text (by decide) (by decide) address

end ThreadLab.Ip.V4
