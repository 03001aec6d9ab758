import ThreadLab.Text.Utf8

namespace ThreadLab.Text.Utf8

theorem decodeFrom_cons_ascii {byte : UInt8} (ascii : byte.toNat < 0x80) (offset : Nat)
    (rest : List UInt8) : decodeFrom offset (byte :: rest) =
      (Char.ofNat byte.toNat :: ·) <$> decodeFrom (offset + 1) rest := by
  rw [decodeFrom.eq_def]
  dsimp only
  rw [if_pos ascii]

theorem decodeFrom_encodeChars {row : List Char} (ascii : ∀ c ∈ row, c.toNat < 0x80)
    (offset : Nat) : decodeFrom offset (encodeChars row) = .ok row := by
  induction row generalizing offset with
  | nil => rfl
  | cons c row ih =>
    have small := ascii c (by simp)
    have rest := ih (fun other member => ascii other (List.mem_cons_of_mem c member)) (offset + 1)
    have encoded : String.utf8EncodeChar c = [UInt8.ofNat c.toNat] :=
      if_pos (Nat.le_of_lt_succ small)
    have byte : (UInt8.ofNat c.toNat).toNat = c.toNat := by
      rw [UInt8.toNat_ofNat']
      omega
    have ascii' : (UInt8.ofNat c.toNat).toNat < 0x80 := by
      rwa [byte]
    show decodeFrom offset (String.utf8EncodeChar c ++ encodeChars row) = _
    rw [encoded, List.singleton_append, decodeFrom_cons_ascii ascii', byte, rest, Char.ofNat_toNat]
    rfl

theorem decode_encodeChars {row : List Char} (ascii : ∀ c ∈ row, c.toNat < 0x80) :
    decode (encodeChars row) = .ok (ofChars row) := by
  rw [decode, decodeFrom_encodeChars ascii]
  rfl

theorem decode_of_ascii {row : List Char} (ascii : (row.all fun c => c.toNat < 0x80) = true) :
    decode (encodeChars row) = .ok (ofChars row) := by
  apply decode_encodeChars
  intro c member
  exact of_decide_eq_true (List.all_eq_true.mp ascii c member)

end ThreadLab.Text.Utf8
