import ThreadLab.Packet.Icmpv6Header
import ThreadLab.Packet.Ipv6Header
import ThreadLab.Packet.PrefixInformation
import ThreadLab.Packet.RouterHeader
import ThreadLab.Proofs.Packet.Layout

namespace ThreadLab

theorem Ip.V6.withoutScope_eq_iff (address : V6) :
    address.withoutScope = address ↔ address.scope = none := by
  constructor
  · intro same
    rw [← same]
    rfl
  · intro free
    rw [withoutScope, ← free]

theorem Ip.V6.withoutScope_eq_of_value {left right : V6} (same : left.value = right.value) :
    left.withoutScope = right.withoutScope := by
  simp only [withoutScope, same]

namespace Packet

open Header

theorem field?_address (address : Ip.V6) : field? 16 address.value = some address.packed := by
  have below := address.value_lt
  have inside : InRange 16 address.value := ⟨by omega, Int.ofNat_lt.mpr below⟩
  rw [field?_of_inRange inside, Int.toNat_natCast, Ip.V6.packed]

theorem value_ofPacked_slice (bytes : Bytes) (start : Nat) (inside : start + 16 ≤ bytes.length) :
    (Ip.V6.ofPacked (bytes.slice start 16)).value = Bytes.number (bytes.slice start 16) :=
  Ip.V6.value_ofPacked (Bytes.length_slice inside)

instance : Layout Ipv6Header where
  widths := [4, 2, 1, 1, 16, 16]
  row header := [(4, header.versionClassFlow), (2, header.payloadLength), (1, header.nextHeader),
    (1, header.hopLimit), (16, header.source.value), (16, header.destination.value)]
  addresses header := [header.source, header.destination]
  withoutScopes header := { header with
    source := header.source.withoutScope, destination := header.destination.withoutScope }
  widths_row _ := rfl
  sum_widths := rfl
  toBytes?_eq header := by
    simp [toBytes?, Ipv6Header.toBytes?, Row.write?, field?_address, Option.bind_assoc]
  row_ofBytes bytes whole := by
    have source := value_ofPacked_slice bytes 8 (by rw [whole]; decide)
    have destination := value_ofPacked_slice bytes 24 (by rw [whole]; decide)
    simp only [ofBytes, Ipv6Header.ofBytes, source, destination]
    simp [Row.read, Bytes.slice]
  withoutScopes_ofBytes _ := rfl
  withoutScopes_of_row left right same := by
    simp only [List.cons.injEq, Prod.mk.injEq, true_and, and_true, Int.natCast_inj] at same
    obtain ⟨flow, payload, next, hop, source, destination⟩ := same
    simp only [flow, payload, next, hop, Ip.V6.withoutScope_eq_of_value source,
      Ip.V6.withoutScope_eq_of_value destination]
  withoutScopes_eq_iff header := by
    cases header
    simp [Ip.V6.withoutScope_eq_iff]

instance : Layout Icmpv6Header where
  widths := [1, 1, 2]
  row header := [(1, header.kind), (1, header.code), (2, header.checksum)]
  addresses _ := []
  withoutScopes header := header
  widths_row _ := rfl
  sum_widths := rfl
  toBytes?_eq header := by
    simp [toBytes?, Icmpv6Header.toBytes?, Row.write?, Option.bind_assoc]
  row_ofBytes bytes _ := by
    simp [ofBytes, Icmpv6Header.ofBytes, Row.read, Bytes.slice]
  withoutScopes_ofBytes _ := rfl
  withoutScopes_of_row left right same := by
    obtain ⟨kind, code, checksum⟩ := left
    simp only [List.cons.injEq, Prod.mk.injEq, true_and, and_true] at same
    obtain ⟨rfl, rfl, rfl⟩ := same
    rfl
  withoutScopes_eq_iff header := by simp

instance : Layout RouterHeader where
  widths := [1, 1, 2, 4, 4]
  row header := [(1, header.hopLimit), (1, header.flags), (2, header.routerLifetime),
    (4, header.reachableTime), (4, header.retransTimer)]
  addresses _ := []
  withoutScopes header := header
  widths_row _ := rfl
  sum_widths := rfl
  toBytes?_eq header := by
    simp [toBytes?, RouterHeader.toBytes?, Row.write?, Option.bind_assoc]
  row_ofBytes bytes _ := by
    simp [ofBytes, RouterHeader.ofBytes, Row.read, Bytes.slice]
  withoutScopes_ofBytes _ := rfl
  withoutScopes_of_row left right same := by
    obtain ⟨hopLimit, flags, lifetime, reachable, retrans⟩ := left
    simp only [List.cons.injEq, Prod.mk.injEq, true_and, and_true] at same
    obtain ⟨rfl, rfl, rfl, rfl, rfl⟩ := same
    rfl
  withoutScopes_eq_iff header := by simp

instance : Layout PrefixInformation where
  widths := [1, 1, 1, 1, 4, 4, 4, 16]
  row option := [(1, option.kind), (1, option.length), (1, option.prefixLength), (1, option.flags),
    (4, option.validLifetime), (4, option.preferredLifetime), (4, option.reserved),
    (16, option.base.value)]
  addresses option := [option.base]
  withoutScopes option := { option with base := option.base.withoutScope }
  widths_row _ := rfl
  sum_widths := rfl
  toBytes?_eq option := by
    simp [toBytes?, PrefixInformation.toBytes?, Row.write?, field?_address, Option.bind_assoc]
  row_ofBytes bytes whole := by
    have base := value_ofPacked_slice bytes 16 (by rw [whole]; decide)
    simp only [ofBytes, PrefixInformation.ofBytes, base]
    simp [Row.read, Bytes.slice]
  withoutScopes_ofBytes _ := rfl
  withoutScopes_of_row left right same := by
    simp only [List.cons.injEq, Prod.mk.injEq, true_and, and_true, Int.natCast_inj] at same
    obtain ⟨kind, length, prefixLength, flags, valid, preferred, reserved, base⟩ := same
    simp only [kind, length, prefixLength, flags, valid, preferred, reserved,
      Ip.V6.withoutScope_eq_of_value base]
  withoutScopes_eq_iff option := by
    cases option
    simp [Ip.V6.withoutScope_eq_iff]

/-- Reading and writing headers of a kind undo each other: a header that has bytes is read back from
them, without the scopes of its addresses, whatever lies around them in a buffer, and a header that
is read from a buffer has the bytes it was read from. -/
structure Codec (α : Type) [Header α] [Layout α] : Prop where
  reads_back : ∀ (header : α) (bytes before after : Bytes), toBytes? header = some bytes →
    bytes.length = size α ∧
    parse (before ++ bytes ++ after) before.length = .ok (Layout.withoutScopes header) ∧
    (parse (before ++ bytes ++ after) before.length = .ok header ↔ Layout.ScopeFree header)
  writes_back : ∀ (header : α) (buffer : Bytes) (offset : Int), parse buffer offset = .ok header →
    toBytes? header = some (buffer.slice offset.toNat (size α))
  same_of_bytes : ∀ (left right : α) (bytes : Bytes), Layout.ScopeFree left →
    Layout.ScopeFree right → toBytes? left = some bytes → toBytes? right = some bytes → left = right

theorem codec_of_layout (α : Type) [Header α] [Layout α] : Codec α where
  reads_back header bytes before after written := by
    have read := Layout.parse_append_toBytes? written before after
    refine ⟨Layout.length_of_toBytes? written, read, ?_⟩
    rw [read, Except.ok.injEq]
    exact Layout.withoutScopes_eq_iff header
  writes_back _ _ _ found := Layout.toBytes?_of_parse found
  same_of_bytes _ _ _ leftFree rightFree leftWritten rightWritten :=
    Layout.eq_of_toBytes? leftFree rightFree leftWritten rightWritten

theorem headers_codec :
    Codec Ipv6Header ∧ Codec Icmpv6Header ∧ Codec RouterHeader ∧ Codec PrefixInformation :=
  ⟨codec_of_layout _, codec_of_layout _, codec_of_layout _, codec_of_layout _⟩

def scopedHeader : Ipv6Header where
  versionClassFlow := 0x60000000
  payloadLength := 56
  nextHeader := 58
  hopLimit := 255
  source := ⟨0xfe800000000000000000000000000002,
    some ⟨"wpan0", by decide, by decide, by decide⟩, by decide⟩
  destination := Ip.V6.ofGroups [0xff02, 0, 0, 0, 0, 0, 0, 1]

theorem headers_codec_scoped :
    ∃ bytes, toBytes? scopedHeader = some bytes ∧ bytes.length = 40 ∧
      parse ([1, 2] ++ bytes ++ [3]) 2 = .ok (Layout.withoutScopes scopedHeader) ∧
      parse ([1, 2] ++ bytes ++ [3]) 2 ≠ .ok scopedHeader := by
  obtain ⟨bytes, written⟩ : ∃ bytes, toBytes? scopedHeader = some bytes := ⟨_, rfl⟩
  obtain ⟨whole, back, free⟩ := headers_codec.1.reads_back scopedHeader bytes [1, 2] [3] written
  have kept : ¬ Layout.ScopeFree scopedHeader := by decide
  refine ⟨bytes, written, whole, back, ?_⟩
  intro same
  exact kept (free.mp same)

end Packet

end ThreadLab
