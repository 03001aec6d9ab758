import ThreadLab.Base64

namespace ThreadLab.Base64

def sextets : Bytes → List Nat
  | [] => []
  | [a] => [a.toNat / 4, a.toNat % 4 * 16]
  | [a, b] => [a.toNat / 4, a.toNat % 4 * 16 + b.toNat / 16, b.toNat % 16 * 4]
  | a :: b :: c :: rest =>
    a.toNat / 4 :: (a.toNat % 4 * 16 + b.toNat / 16) :: (b.toNat % 16 * 4 + c.toNat / 64) ::
      c.toNat % 64 :: sextets rest

def padding (count : Nat) : Text :=
  List.replicate ((3 - count % 3) % 3) '='

theorem encode_eq (bytes : Bytes) :
    encode bytes = (sextets bytes).map letter ++ padding bytes.length := by
  induction bytes using encode.induct with
  | case1 | case2 a | case3 a b => rfl
  | case4 a b c rest ih =>
    have same : padding (rest.length + 1 + 1 + 1) = padding rest.length := by
      have modulo : (rest.length + 1 + 1 + 1) % 3 = rest.length % 3 := by omega
      rw [padding, modulo, padding]
    rw [encode, ih]
    simp only [sextets, List.map_cons, List.cons_append, List.length_cons, same]

theorem sextets_lt (bytes : Bytes) : ∀ value ∈ sextets bytes, value < 64 := by
  induction bytes using sextets.induct with
  | case1 => simp [sextets]
  | case2 a =>
    have small := a.toNat_lt
    simp only [sextets, List.forall_mem_cons, List.not_mem_nil, false_implies, implies_true, and_true]
    omega
  | case3 a b =>
    have small := a.toNat_lt
    have small' := b.toNat_lt
    simp only [sextets, List.forall_mem_cons, List.not_mem_nil, false_implies, implies_true, and_true]
    omega
  | case4 a b c rest ih =>
    have small := a.toNat_lt
    have small' := b.toNat_lt
    have small'' := c.toNat_lt
    simp only [sextets, List.forall_mem_cons]
    exact ⟨by omega, by omega, by omega, by omega, ih⟩

theorem length_sextets (bytes : Bytes) :
    (sextets bytes).length % 4 = bytes.length % 3 + (bytes.length % 3 + 2) / 3 := by
  induction bytes using sextets.induct with
  | case1 | case2 a | case3 a b => simp [sextets]
  | case4 a b c rest ih =>
    simp only [sextets, List.length_cons]
    omega

theorem bytesOf_sextets (bytes : Bytes) : bytesOf (sextets bytes) = bytes := by
  induction bytes using sextets.induct with
  | case1 => rfl
  | case2 a =>
    have first : a.toNat / 4 * 4 + a.toNat % 4 * 16 / 16 = a.toNat := by omega
    simp only [sextets, bytesOf, first, UInt8.ofNat_toNat]
  | case3 a b =>
    have small := b.toNat_lt
    have first : a.toNat / 4 * 4 + (a.toNat % 4 * 16 + b.toNat / 16) / 16 = a.toNat := by omega
    have second : (a.toNat % 4 * 16 + b.toNat / 16) % 16 * 16 + b.toNat % 16 * 4 / 4 = b.toNat := by
      omega
    simp only [sextets, bytesOf, first, second, UInt8.ofNat_toNat]
  | case4 a b c rest ih =>
    have small := b.toNat_lt
    have small' := c.toNat_lt
    have first : a.toNat / 4 * 4 + (a.toNat % 4 * 16 + b.toNat / 16) / 16 = a.toNat := by omega
    have second : (a.toNat % 4 * 16 + b.toNat / 16) % 16 * 16 +
        (b.toNat % 16 * 4 + c.toNat / 64) / 4 = b.toNat := by omega
    have third : (b.toNat % 16 * 4 + c.toNat / 64) % 4 * 64 + c.toNat % 64 = c.toNat := by omega
    simp only [sextets, bytesOf, first, second, third, UInt8.ofNat_toNat, ih]

theorem letter_ne_pad {value : Nat} (below : value < 64) : letter value ≠ '=' := by
  have all : ∀ value : Fin 64, letter value ≠ '=' := by decide
  exact all ⟨value, below⟩

theorem letter_ascii {value : Nat} (below : value < 64) : (letter value).toNat < 128 := by
  have all : ∀ value : Fin 64, (letter value).toNat < 128 := by decide
  exact all ⟨value, below⟩

theorem scan_letters {values : List Nat} (below : ∀ value ∈ values, value < 64) (letters : Nat)
    (text : Text) :
    scan letters 0 (values.map letter ++ text) =
      (values ++ (scan (letters + values.length) 0 text).1,
        (scan (letters + values.length) 0 text).2) := by
  induction values generalizing letters with
  | nil => rfl
  | cons value values ih =>
    have first := below value (by simp)
    have rest := ih (fun other member => below other (List.mem_cons_of_mem _ member)) (letters + 1)
    rw [List.map_cons, List.cons_append, scan, if_neg (letter_ne_pad first), value?_letter first,
      List.length_cons, ← Nat.add_assoc, Nat.add_right_comm]
    simp only [rest, List.cons_append]

theorem scan_padding {letters count : Nat} (group : letters % 4 = count % 3 + (count % 3 + 2) / 3) :
    scan letters 0 (padding count) = ([], decide (count % 3 ≠ 0)) := by
  have cases : count % 3 = 0 ∨ count % 3 = 1 ∨ count % 3 = 2 := by omega
  rcases cases with none | two | one
  · rw [padding, none]
    rfl
  · have left : letters % 4 = 2 := by omega
    rw [padding, two]
    simp [List.replicate, scan, left]
  · have left : letters % 4 = 3 := by omega
    rw [padding, one]
    simp [scan, left]

theorem encode_ascii {bytes : Bytes} {c : CodePoint} (member : c ∈ encode bytes) : c.toNat < 128 := by
  rw [encode_eq, List.mem_append] at member
  rcases member with member | member
  · obtain ⟨value, inside, rfl⟩ := List.mem_map.mp member
    exact letter_ascii (sextets_lt bytes value inside)
  · rw [(List.mem_replicate.mp member).2]
    decide

theorem decode_encode (bytes : Bytes) : decode (encode bytes) = .ok bytes := by
  have ascii : ¬ ((encode bytes).any fun c => decide (128 ≤ c.toNat)) = true := by
    rw [List.any_eq_true]
    rintro ⟨c, member, large⟩
    have small := encode_ascii member
    have large := of_decide_eq_true large
    omega
  have group := length_sextets bytes
  have read : scan 0 0 (encode bytes) = (sextets bytes, decide (bytes.length % 3 ≠ 0)) := by
    rw [encode_eq, scan_letters (sextets_lt bytes), Nat.zero_add, scan_padding group,
      List.append_nil]
  have complete : decide (bytes.length % 3 ≠ 0) = true ∨ (sextets bytes).length % 4 = 0 := by
    rw [decide_eq_true_iff]
    omega
  rw [decode, if_neg ascii, read]
  dsimp only
  rw [if_pos complete, bytesOf_sextets]

end ThreadLab.Base64
