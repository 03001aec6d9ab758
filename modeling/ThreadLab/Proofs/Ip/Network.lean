import ThreadLab.Ip.Network

namespace ThreadLab.Ip

namespace V6

def bit (address : V6) (place : Nat) : Bool :=
  place < 128 && address.value.testBit (127 - place)

def Agree (left right : V6) (length : Nat) : Prop :=
  ∀ place < length, left.bit place = right.bit place

theorem value_eq_of_agree {left right : V6} (agree : left.Agree right 128) :
    left.value = right.value := by
  apply Nat.eq_of_testBit_eq
  intro place
  by_cases inside : place < 128
  · have same := agree (127 - place) (by omega)
    have back : 127 - (127 - place) = place := by omega
    have bounded : 127 - place < 128 := by omega
    simpa [bit, back, bounded] using same
  · have above : 1 <<< 128 ≤ 2 ^ place := by
      rw [Nat.one_shiftLeft]
      exact Nat.pow_le_pow_right (by decide) (by omega)
    rw [Nat.testBit_lt_two_pow (Nat.lt_of_lt_of_le left.value_lt above),
      Nat.testBit_lt_two_pow (Nat.lt_of_lt_of_le right.value_lt above)]

theorem eq_of_agree {left right : V6} (agree : left.Agree right 128)
    (scopes : left.scope = right.scope) : left = right := by
  have values := value_eq_of_agree agree
  cases left
  cases right
  simp_all

end V6

namespace Network

theorem testBit_truncate (length value place : Nat) :
    (truncate length value).testBit place =
      (decide (128 - length ≤ place) && value.testBit place) := by
  rw [truncate, Nat.testBit_shiftLeft, Nat.testBit_shiftRight]
  by_cases kept : 128 - length ≤ place
  · have back : 128 - length + (place - (128 - length)) = place := by omega
    rw [back]
  · simp [kept]

theorem bit_firstAddress {length : Nat} (fits : length ≤ 128) (address : V6) (place : Nat) :
    (firstAddress length address).bit place = (decide (place < length) && address.bit place) := by
  rw [V6.bit, V6.bit, firstAddress, testBit_truncate]
  by_cases inside : place < 128
  · have same : 128 - length ≤ 127 - place ↔ place < length := by omega
    simp [inside, same]
  · simp [inside]

/-- The network reaches over all addresses that begin with the same bits as `address`. -/
structure Spans (network : Network) (address : V6) (length : Int) : Prop where
  length : network.length = length
  scope : network.address.scope = none
  kept : network.address.Agree address network.length
  cleared : ∀ place, network.length ≤ place → network.address.bit place = false

variable {network other : Network} {address base : V6} {length size : Int}

theorem spans_firstAddress (scopeless : address.scope = none) {length : Nat} (fits : length ≤ 128) :
    Spans ⟨firstAddress length address, length, fits⟩ address length where
  length := rfl
  scope := by
    rw [firstAddress]
    split
    · exact scopeless
    · rfl
  kept := by
    intro place inside
    change place < length at inside
    simp [bit_firstAddress fits, inside]
  cleared := by
    intro place outside
    change length ≤ place at outside
    simp [bit_firstAddress fits, Nat.not_lt.mpr outside]

theorem around_of_long (long : 128 < length) : around address length = .error ⟨length⟩ :=
  dif_neg (by omega)

theorem around_of_short (scopeless : address.scope = none) (positive : 0 ≤ length)
    (short : length ≤ 128) :
    ∃ network, around address length = .ok network ∧ network.Spans address length := by
  have fits : length.toNat ≤ 128 := by omega
  have spans := spans_firstAddress scopeless fits
  rw [Int.toNat_of_nonneg positive] at spans
  exact ⟨_, dif_pos ⟨positive, short⟩, spans⟩

theorem agree_iff_of_spans (left : network.Spans address length) (right : other.Spans base size)
    (lengths : network.length = other.length) :
    network.address.Agree other.address 128 ↔ address.Agree base network.length := by
  have keptRight := right.kept
  have clearedRight := right.cleared
  rw [← lengths] at keptRight clearedRight
  constructor
  · intro agree place inside
    have small : place < 128 := Nat.lt_of_lt_of_le inside network.length_le
    rw [← left.kept place inside, agree place small, keptRight place inside]
  · intro agree place _
    by_cases inside : place < network.length
    · rw [left.kept place inside, agree place inside, keptRight place inside]
    · have outside := Nat.not_lt.mp inside
      rw [left.cleared place outside, clearedRight place outside]

/-- Networks are the same where they are of one length and their addresses agree on so many bits. -/
theorem Spans.eq_iff (left : network.Spans address length) (right : other.Spans base size) :
    network = other ↔ length = size ∧ address.Agree base length.toNat := by
  have first := left.length
  have second := right.length
  have front : length.toNat = network.length := by omega
  rw [front]
  constructor
  · rintro rfl
    have agree := (agree_iff_of_spans left right rfl).mp fun _ _ => rfl
    exact ⟨first.symm.trans second, agree⟩
  · rintro ⟨rfl, agree⟩
    have lengths : network.length = other.length := by omega
    have addresses : network.address = other.address :=
      V6.eq_of_agree ((agree_iff_of_spans left right lengths).mpr agree)
        (left.scope.trans right.scope.symm)
    cases network
    cases other
    simp_all

theorem Spans.of_self (spans : network.Spans address length) :
    network.Spans network.address length where
  length := spans.length
  scope := spans.scope
  kept _ _ := rfl
  cleared := spans.cleared

end Network

end ThreadLab.Ip
