import ThreadLab.Proofs.Ip.Network
import ThreadLab.Proofs.Packet.Codec

namespace ThreadLab.Packet.PrefixInformation

open Header Ip

/-- The option was read from some buffer. -/
def Received (option : PrefixInformation) : Prop :=
  ∃ buffer offset, parse buffer offset = .ok option

variable {option left right : PrefixInformation}

theorem Received.scopeless (received : option.Received) : option.base.scope = none := by
  obtain ⟨buffer, offset, read⟩ := received
  obtain ⟨-, rfl⟩ := fits_of_parse read
  rfl

theorem Received.prefixLength_nonneg (received : option.Received) : 0 ≤ option.prefixLength := by
  obtain ⟨buffer, offset, read⟩ := received
  obtain ⟨-, rfl⟩ := fits_of_parse read
  exact Int.natCast_nonneg _

theorem received_of_encodable (encodable : Layout.Encodable option)
    (scopeless : option.base.scope = none) : option.Received := by
  have free : Layout.ScopeFree option := by
    intro address member
    rw [List.mem_singleton.mp member]
    exact scopeless
  obtain ⟨bytes, written⟩ := Layout.exists_toBytes? encodable
  have read := Layout.parse_append_toBytes? written [] []
  rw [(Layout.withoutScopes_eq_iff option).mpr free] at read
  exact ⟨_, _, read⟩

theorem exists_received (base : V6) (length : Nat) (scopeless : base.scope = none)
    (byte : length < 256) :
    ∃ option : PrefixInformation, option.Received ∧ option.base = base ∧
      option.prefixLength = length := by
  let option : PrefixInformation :=
    { prefixLength := length, flags := 0, validLifetime := 0, preferredLifetime := 0, base }
  have encodable : Layout.Encodable option := by
    have small : InRange 1 length := ⟨Int.natCast_nonneg _, Int.ofNat_lt.mpr byte⟩
    have address : InRange 16 base.value :=
      ⟨Int.natCast_nonneg _, Int.ofNat_lt.mpr base.value_lt⟩
    simp only [Layout.Encodable, Layout.row, Row.Fits, List.forall_mem_cons, List.not_mem_nil,
      false_implies, implies_true, and_true, option]
    exact ⟨by decide, by decide, small, by decide, by decide, by decide, by decide, address⟩
  exact ⟨option, received_of_encodable encodable scopeless, rfl, rfl⟩

theorem network_of_long (long : 128 < option.prefixLength) :
    option.network = .error ⟨option.prefixLength⟩ :=
  Network.around_of_long long

theorem network_of_short (received : option.Received) (short : option.prefixLength ≤ 128) :
    ∃ network, option.network = .ok network ∧ network.Spans option.base option.prefixLength :=
  Network.around_of_short received.scopeless received.prefixLength_nonneg short

theorem short_of_network {network : Network} (named : option.network = .ok network) :
    option.prefixLength ≤ 128 := by
  apply Int.not_lt.mp
  intro long
  rw [network_of_long long] at named
  cases named

theorem network_eq_iff (leftReceived : left.Received) (rightReceived : right.Received)
    (leftShort : left.prefixLength ≤ 128) (rightShort : right.prefixLength ≤ 128) :
    left.network = right.network ↔ left.prefixLength = right.prefixLength ∧
      left.base.Agree right.base left.prefixLength.toNat := by
  obtain ⟨first, leftNamed, leftSpans⟩ := network_of_short leftReceived leftShort
  obtain ⟨second, rightNamed, rightSpans⟩ := network_of_short rightReceived rightShort
  rw [leftNamed, rightNamed, Except.ok.injEq]
  exact leftSpans.eq_iff rightSpans

theorem network_of_address (received : option.Received) {network : Network}
    (named : option.network = .ok network) :
    ({ option with base := network.address } : PrefixInformation).network = .ok network := by
  have short := short_of_network named
  obtain ⟨same, known, spans⟩ := network_of_short received short
  obtain rfl := Except.ok.inj (named.symm.trans known)
  obtain ⟨again, found, others⟩ :=
    Network.around_of_short spans.scope received.prefixLength_nonneg short
  have equal : again = network := (others.eq_iff spans.of_self).mpr ⟨rfl, fun _ _ => rfl⟩
  rw [equal] at found
  exact found

/-- A network has the prefix length of its option and the first bits of its base, and is unnamed
where there are more of them than an address has. So options name one network exactly where they
agree on these bits, and a network's own address names it again. -/
theorem network_leadingBits :
    (∀ option : PrefixInformation, option.Received →
      ((∃ fault, option.network = .error fault) ↔ 128 < option.prefixLength) ∧
      (128 < option.prefixLength → option.network = .error ⟨option.prefixLength⟩) ∧
      (option.prefixLength ≤ 128 → ∃ network, option.network = .ok network ∧
        network.Spans option.base option.prefixLength)) ∧
    (∀ left right : PrefixInformation, left.Received → right.Received →
      left.prefixLength ≤ 128 → right.prefixLength ≤ 128 →
      (left.network = right.network ↔ left.prefixLength = right.prefixLength ∧
        left.base.Agree right.base left.prefixLength.toNat)) ∧
    (∀ (option : PrefixInformation) (network : Network), option.Received →
      option.network = .ok network →
      ({ option with base := network.address } : PrefixInformation).network = .ok network) ∧
    ∀ (base : V6) (length : Nat), base.scope = none → length < 256 →
      ∃ option : PrefixInformation, option.Received ∧ option.base = base ∧
        option.prefixLength = length := by
  refine ⟨fun option received => ⟨⟨?_, ?_⟩, network_of_long, network_of_short received⟩, ?_, ?_, ?_⟩
  · rintro ⟨fault, unnamed⟩
    apply Int.not_le.mp
    intro short
    obtain ⟨network, named, -⟩ := network_of_short received short
    cases named.symm.trans unnamed
  · exact fun long => ⟨_, network_of_long long⟩
  · exact fun _ _ => network_eq_iff
  · exact fun _ _ received => network_of_address received
  · exact exists_received

def uneven : PrefixInformation where
  prefixLength := 61
  flags := 0xc0
  validLifetime := 1800
  preferredLifetime := 900
  base := ⟨0x20010db80000abcf0000000000000001, none, by decide⟩

def changed : PrefixInformation :=
  { uneven with base := ⟨0x20010db80000abc80123456789abcdef, none, by decide⟩ }

def tooLong : PrefixInformation :=
  { uneven with prefixLength := 129 }

theorem network_leadingBits_uneven :
    uneven.Received ∧ changed.Received ∧ tooLong.Received ∧
      (∃ network, uneven.network = .ok network ∧ network.Spans uneven.base 61 ∧
        ({ uneven with base := network.address } : PrefixInformation).network = .ok network) ∧
      uneven.network = changed.network ∧
      tooLong.network = .error ⟨129⟩ ∧
      ∃ option : PrefixInformation, option.Received ∧ option.base = uneven.base ∧
        option.prefixLength = (255 : Nat) := by
  have first : uneven.Received := received_of_encodable (by decide) rfl
  have second : changed.Received := received_of_encodable (by decide) rfl
  have third : tooLong.Received := received_of_encodable (by decide) rfl
  have agree : uneven.base.Agree changed.base 61 := by
    unfold V6.Agree
    decide
  obtain ⟨each, pairs, again, all⟩ := network_leadingBits
  obtain ⟨network, named, spans⟩ := (each uneven first).2.2 (by decide)
  refine ⟨first, second, third, ⟨network, named, spans, again _ _ first named⟩, ?_, ?_, ?_⟩
  · exact (pairs _ _ first second (by decide) (by decide)).mpr ⟨rfl, agree⟩
  · exact (each tooLong third).2.1 (by decide)
  · exact all uneven.base 255 rfl (by decide)

end ThreadLab.Packet.PrefixInformation
