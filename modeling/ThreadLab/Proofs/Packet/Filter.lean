import ThreadLab.Packet.Filter
import ThreadLab.Proofs.Packet.Places

namespace ThreadLab

theorem Ip.V6.ofPacked_eq_iff {bytes : Bytes} (size : bytes.length = 16) {address : Ip.V6} :
    ofPacked bytes = address ↔ bytes = address.packed ∧ address.scope = none := by
  constructor
  · intro same
    rw [← same]
    exact ⟨(packed_ofPacked size).symm, rfl⟩
  · intro facts
    rw [facts.1, ofPacked_packed]
    exact (withoutScope_eq_iff address).mpr facts.2

namespace Packet

open Header

def HasHeader (packet : Option Bytes) : Prop :=
  ∃ bytes, packet = some bytes ∧ 40 ≤ bytes.length

theorem hasHeader_some (bytes : Bytes) : HasHeader (some bytes) ↔ 40 ≤ bytes.length := by
  simp [HasHeader]

/-- Whether an address stands at a place of the header. One with a scope never does: packets have
no room for scopes. -/
def Carries (packet : Option Bytes) (place : Nat) (address : Ip.V6) : Prop :=
  ∃ bytes, packet = some bytes ∧ 40 ≤ bytes.length ∧
    bytes.slice place 16 = address.packed ∧ address.scope = none

theorem isIcmpv6_iff (packet : Option Bytes) (kind : Int) :
    isIcmpv6 packet (.integer kind) = true ↔ ∃ bytes, packet = some bytes ∧ 44 ≤ bytes.length ∧
      bytes[6]? = some 58 ∧ ∃ byte, bytes[40]? = some byte ∧ (byte.toNat : Int) = kind := by
  cases packet with
  | none => simp [isIcmpv6]
  | some bytes =>
    by_cases whole : 44 ≤ bytes.length
    · have first : bytes[6]? = some bytes[6] := List.getElem?_eq_getElem (by omega)
      have second : bytes[40]? = some bytes[40] := List.getElem?_eq_getElem (by omega)
      have header := parse_ipv6Header (show 40 ≤ bytes.length by omega)
      have message := parse_icmpv6Header whole
      have carries : (bytes[6].toNat : Int) = icmpv6Protocol ↔ bytes[6] = 58 :=
        toNat_eq_iff bytes[6] 58 (by decide)
      simp only [isIcmpv6, header, message, nextHeader_ofBytes first, kind_ofBytes second,
        Json.same_integer, Bool.and_eq_true, beq_iff_eq, carries, decide_eq_true_iff]
      simp [first, second, whole]
    · -- The message lies after the header, so that it is cut short whether the header is or not.
      have cut : ∀ message : Icmpv6Header, parse bytes icmpv6Offset ≠ .ok message := by
        intro message read
        exact whole (parse_eq_ok_iff.mp read).1
      have rejected : isIcmpv6 (some bytes) (.integer kind) = false := by
        rw [isIcmpv6]
        split
        · rename_i message _ read
          exact absurd read (cut message)
        · rfl
      simp [rejected, whole]

section

variable {select : Ipv6Header → Ip.V6} {packet : Option Bytes} {bytes : Bytes}
  {header : Ipv6Header} {reference : Ip.Reference}

theorem headerAddressIs_of_parse (read : parse bytes 0 = .ok header) {address : Ip.V6}
    (means : reference.address = .ok address) :
    headerAddressIs select (some bytes) reference = .ok (decide (address = select header)) := by
  rw [headerAddressIs, read]
  dsimp only
  rw [means]
  exact congrArg Except.ok (Bool.beq_comm.trans (beq_eq_decide address (select header)))

theorem headerAddressIs_of_fault (present : HasHeader packet) {fault : Ip.V6.Fault}
    (wrong : reference.address = .error fault) :
    headerAddressIs select packet reference = .error fault := by
  obtain ⟨bytes, rfl, whole⟩ := present
  rw [headerAddressIs, parse_ipv6Header whole]
  dsimp only
  rw [wrong]
  rfl

theorem headerAddressIs_of_no_header (absent : ¬HasHeader packet) (reference : Ip.Reference) :
    headerAddressIs select packet reference = .ok false := by
  cases packet with
  | none => rfl
  | some bytes =>
    rw [headerAddressIs]
    split
    · rfl
    · rename_i header read
      have whole : 0 + 40 ≤ bytes.length := (parse_eq_ok_iff.mp read).1
      exact absurd ((hasHeader_some bytes).mpr (by omega)) absent

end

/-- What a test for an address at a place of the header does: it decides whether the address stands
there, and looks at what is meant only where there is a header. -/
structure Decides (test : Option Bytes → Ip.Reference → Except Ip.V6.Fault Bool) (place : Nat)
    (select : Ipv6Header → Ip.V6) : Prop where
  answers : ∀ packet reference address, reference.address = .ok address →
    ∃ answer, test packet reference = .ok answer ∧ (answer = true ↔ Carries packet place address)
  refuses : ∀ packet reference fault, reference.address = .error fault →
    (HasHeader packet → test packet reference = .error fault) ∧
    (¬HasHeader packet → test packet reference = .ok false)
  of_header : ∀ header, Layout.Encodable header → Layout.ScopeFree header →
    ∃ bytes, toBytes? header = some bytes ∧
      ∀ payload reference address, reference.address = .ok address →
        test (some (bytes ++ payload)) reference = .ok (decide (address = select header))

theorem headerAddressIs_decides {place : Nat} {select : Ipv6Header → Ip.V6}
    (inside : place + 16 ≤ 40)
    (reads : ∀ bytes, select (ofBytes bytes) = Ip.V6.ofPacked (bytes.slice place 16)) :
    Decides (headerAddressIs select) place select where
  answers packet reference address means := by
    by_cases present : HasHeader packet
    · obtain ⟨bytes, rfl, whole⟩ := present
      have size : (bytes.slice place 16).length = 16 := Bytes.length_slice (by omega)
      refine ⟨_, headerAddressIs_of_parse (parse_ipv6Header whole) means, ?_⟩
      rw [decide_eq_true_iff, eq_comm, reads, Bytes.slice_slice inside, Nat.zero_add,
        Ip.V6.ofPacked_eq_iff size]
      simp [Carries, whole]
    · refine ⟨false, headerAddressIs_of_no_header present reference, ?_⟩
      refine iff_of_false nofun ?_
      rintro ⟨bytes, given, whole, -⟩
      exact present ⟨bytes, given, whole⟩
  refuses _ reference _ wrong :=
    ⟨fun present => headerAddressIs_of_fault present wrong,
      fun absent => headerAddressIs_of_no_header absent reference⟩
  of_header header encodable free := by
    obtain ⟨bytes, written⟩ := Layout.exists_toBytes? encodable
    refine ⟨bytes, written, fun payload reference address means => ?_⟩
    have read : parse (bytes ++ payload) 0 = .ok (Layout.withoutScopes header) :=
      Layout.parse_append_toBytes? written [] payload
    rw [(Layout.withoutScopes_eq_iff header).mpr free] at read
    exact headerAddressIs_of_parse read means

theorem isIcmpv6_of_advertisedPrefixes {packet : Option Bytes}
    (found : advertisedPrefixes packet ≠ []) : isIcmpv6 packet (.integer 134) = true := by
  cases packet with
  | none => exact absurd rfl found
  | some bytes =>
    have advertises : isRouterAdvertisement bytes = .ok true := by
      by_contra other
      exact found (advertisedPrefixes_of_other other)
    obtain ⟨whole, carries, announces⟩ := (isRouterAdvertisement_iff bytes).mp advertises
    exact (isIcmpv6_iff _ _).mpr ⟨bytes, rfl, by omega, carries, 134, announces, rfl⟩

/-- Each test decides what a packet says at fixed places, and no packet makes one of them fail. A
wrong address does, but only where a packet has a header to compare it with. -/
theorem filters_decide :
    (∀ packet kind, isIcmpv6 packet (.integer kind) = true ↔
      ∃ bytes, packet = some bytes ∧ 44 ≤ bytes.length ∧ bytes[6]? = some 58 ∧
        ∃ byte, bytes[40]? = some byte ∧ (byte.toNat : Int) = kind) ∧
    Decides isFrom 8 Ipv6Header.source ∧
    Decides isTo 24 Ipv6Header.destination ∧
    ∀ packet, advertisedPrefixes packet ≠ [] → isIcmpv6 packet (.integer 134) = true :=
  ⟨isIcmpv6_iff, headerAddressIs_decides (by decide) fun _ => rfl,
    headerAddressIs_decides (by decide) fun _ => rfl, fun _ => isIcmpv6_of_advertisedPrefixes⟩

theorem filters_decide_spelled :
    ∃ bytes, toBytes? (Layout.withoutScopes scopedHeader) = some bytes ∧
      isFrom (some (bytes ++ [134, 0])) (.reported (.text "FE80:0::2")) = .ok true ∧
      isFrom (some (bytes ++ [134, 0])) (.known scopedHeader.source) = .ok false ∧
      isTo (some (noisyPacket 3)) (.reported (.text "wpan0")) = .error (.fewParts "wpan0") ∧
      isTo (some ((noisyPacket 3).take 39)) (.reported (.text "wpan0")) = .ok false ∧
      advertisedPrefixes (some (noisyPacket 3)) ≠ [] ∧
      isIcmpv6 (some (noisyPacket 3)) (.integer 134) = true := by
  obtain ⟨-, sent, received, advertised⟩ := filters_decide
  obtain ⟨bytes, written, compared⟩ :=
    sent.of_header (Layout.withoutScopes scopedHeader) (by decide) (by decide)
  have wrong : (Ip.Reference.reported (.text "wpan0")).address = .error (.fewParts "wpan0") := by
    decide
  have found : advertisedPrefixes (some (noisyPacket 3)) ≠ [] := by decide +kernel
  refine ⟨bytes, written, ?_, ?_, ?_, ?_, found, advertised _ found⟩
  · exact compared _ (.reported (.text "FE80:0::2")) scopedHeader.source.withoutScope (by decide)
  · exact compared _ (.known scopedHeader.source) _ rfl
  · exact (received.refuses _ _ _ wrong).1 ((hasHeader_some _).mpr (by decide +kernel))
  · exact (received.refuses _ _ _ wrong).2 (mt (hasHeader_some _).mp (by decide +kernel))

end Packet

end ThreadLab
