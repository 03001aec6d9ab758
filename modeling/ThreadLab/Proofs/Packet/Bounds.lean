import Mathlib.Algebra.Ring.Int.Defs
import ThreadLab.Proofs.Packet.Codec

namespace ThreadLab

/-- The bytes at an index of a buffer, where an index below zero counts from the end; none if the
buffer ends before they do. -/
def Bytes.rowAt? (buffer : Bytes) (index : Int) (size : Nat) : Option Bytes :=
  let start := if index < 0 then index + buffer.length else index
  if 0 ≤ start ∧ start + size ≤ buffer.length then some (buffer.slice start.toNat size) else none

namespace Packet

open Header

def Misfit (bits : Nat) (value : Int) : Prop :=
  value < 0 ∨ 2 ^ bits ≤ value

instance (bits : Nat) (value : Int) : Decidable (Misfit bits value) :=
  inferInstanceAs (Decidable (_ ∨ _))

/-- Whether a number stands in the bytes of its field, behind those of the fields before it. -/
def Holds (bytes : Bytes) (before : Row) (width : Nat) (value : Int) : Prop :=
  (Bytes.number (bytes.slice before.widths.sum width) : Int) = value

/-- Headers of a kind are rejected exactly where they do not fit. What is read lies where the offset
says, counted from the start, and what is written keeps every number in its own field. -/
structure Bounded (α : Type) [Header α] [Layout α] : Prop where
  parse_fails : ∀ (buffer : Bytes) (offset : Int) (fault : Truncated),
    (parse buffer offset : Except Truncated α) = .error fault ↔
      (offset < 0 ∨ (buffer.length : Int) - offset < size α) ∧
        fault = ⟨title α, size α, offset, buffer.length⟩
  parse_succeeds : ∀ (buffer : Bytes) (offset : Int), 0 ≤ offset →
    (size α : Int) ≤ buffer.length - offset → ∃ bytes, buffer.rowAt? offset (size α) = some bytes ∧
      bytes = buffer.slice offset.toNat (size α) ∧ bytes.length = size α ∧
      (parse buffer offset : Except Truncated α) = .ok (ofBytes bytes)
  write_fails : ∀ header : α, toBytes? header = none ↔
    ∃ field ∈ Layout.row header, Misfit (8 * field.1) field.2
  write_succeeds : ∀ (header : α) (bytes : Bytes), toBytes? header = some bytes →
    bytes.length = size α ∧ ∀ before width value after,
      Layout.row header = before ++ (width, value) :: after → Holds bytes before width value

theorem not_inRange_iff {width : Nat} {value : Int} :
    ¬InRange width value ↔ Misfit (8 * width) value := by
  have bound : ((Nat.pow 256 width : Nat) : Int) = 2 ^ (8 * width) := by
    have powers : Nat.pow 256 width = 2 ^ (8 * width) := by
      rw [Nat.pow_mul]
      rfl
    exact_mod_cast powers
  rw [InRange, bound, Misfit]
  omega

theorem not_misfit_address (address : Ip.V6) : ¬Misfit 128 address.value := by
  have below : (address.value : Int) < 2 ^ 128 := by exact_mod_cast address.value_lt
  rw [Misfit]
  omega

theorem slice_append_length (first rest : Bytes) (start size : Nat) :
    (first ++ rest).slice (first.length + start) size = rest.slice start size := by
  rw [Bytes.slice, Bytes.slice, List.drop_length_add_append]

theorem Row.holds_of_write? {before after : Row} {width : Nat} {value : Int} {bytes : Bytes}
    (written : Row.write? (before ++ (width, value) :: after) = some bytes) :
    Holds bytes before width value := by
  induction before generalizing bytes with
  | nil =>
    obtain ⟨own, rest, wrote, -, rfl⟩ := write?_cons_eq_some written
    have whole : (own ++ rest).slice 0 width = own := by
      rw [← length_of_field? wrote]
      exact Bytes.slice_append [] own rest
    rw [Holds, widths, List.map_nil, List.sum_nil, whole]
    exact number_of_field? wrote
  | cons field before ih =>
    obtain ⟨first, rest, wrote, others, rfl⟩ := write?_cons_eq_some written
    have held := ih others
    rwa [Holds, widths, List.map_cons, List.sum_cons, ← length_of_field? wrote, slice_append_length]

theorem Row.not_fits_iff (row : Row) : ¬row.Fits ↔ ∃ field ∈ row, Misfit (8 * field.1) field.2 := by
  simp only [Fits, not_forall, exists_prop, not_inRange_iff]

section

variable {α : Type} [Header α]

theorem not_fits_iff {buffer : Bytes} {offset : Int} :
    ¬Fits α buffer offset ↔ offset < 0 ∨ (buffer.length : Int) - offset < size α := by
  rw [Fits]
  omega

theorem parse_eq_error_iff {buffer : Bytes} {offset : Int} {fault : Truncated} :
    (parse buffer offset : Except Truncated α) = .error fault ↔
      (offset < 0 ∨ (buffer.length : Int) - offset < size α) ∧
        fault = ⟨title α, size α, offset, buffer.length⟩ := by
  rw [← not_fits_iff, parse]
  by_cases fits : Fits α buffer offset
  · rw [if_pos fits]
    constructor
    · intro read
      cases read
    · rintro ⟨misfit, -⟩
      exact absurd fits misfit
  · rw [if_neg fits, Except.error.injEq]
    exact ⟨fun same => ⟨fits, same.symm⟩, fun misfit => misfit.2.symm⟩

theorem rowAt?_of_fits {buffer : Bytes} {offset : Int} (fits : Fits α buffer offset) :
    buffer.rowAt? offset (size α) = some (buffer.slice offset.toNat (size α)) := by
  obtain ⟨positive, inside⟩ := fits
  rw [Bytes.rowAt?, if_neg (Int.not_lt.mpr positive), if_pos ⟨positive, inside⟩]

variable [Layout α]

theorem toBytes?_eq_none_iff {header : α} :
    toBytes? header = none ↔ ∃ field ∈ Layout.row header, Misfit (8 * field.1) field.2 := by
  rw [Layout.toBytes?_eq, ← Row.not_fits_iff, ← Row.write?_isSome_iff, Bool.not_eq_true,
    Option.isSome_eq_false_iff, Option.isNone_iff_eq_none]

theorem bounded (α : Type) [Header α] [Layout α] : Bounded α where
  parse_fails _ _ _ := parse_eq_error_iff
  parse_succeeds buffer offset positive enough := by
    have fits : Fits α buffer offset := ⟨positive, by omega⟩
    have inside : offset.toNat + size α ≤ buffer.length := by omega
    exact ⟨_, rowAt?_of_fits fits, rfl, Bytes.length_slice inside, if_pos fits⟩
  write_fails _ := toBytes?_eq_none_iff
  write_succeeds header bytes written := by
    refine ⟨Layout.length_of_toBytes? written, fun before width value after split => ?_⟩
    rw [Layout.toBytes?_eq, split] at written
    exact Row.holds_of_write? written

end

/-- Each kind of header is rejected exactly where it does not fit its buffer, or one of its numbers
does not fit its field. Addresses fit always. -/
theorem headers_bounded :
    (Bounded Ipv6Header ∧ Bounded Icmpv6Header ∧ Bounded RouterHeader ∧
      Bounded PrefixInformation) ∧
    (∀ header : Ipv6Header, toBytes? header = none ↔
      Misfit 32 header.versionClassFlow ∨ Misfit 16 header.payloadLength ∨
        Misfit 8 header.nextHeader ∨ Misfit 8 header.hopLimit) ∧
    (∀ header : Icmpv6Header, toBytes? header = none ↔
      Misfit 8 header.kind ∨ Misfit 8 header.code ∨ Misfit 16 header.checksum) ∧
    (∀ header : RouterHeader, toBytes? header = none ↔
      Misfit 8 header.hopLimit ∨ Misfit 8 header.flags ∨ Misfit 16 header.routerLifetime ∨
        Misfit 32 header.reachableTime ∨ Misfit 32 header.retransTimer) ∧
    ∀ option : PrefixInformation, toBytes? option = none ↔
      Misfit 8 option.kind ∨ Misfit 8 option.length ∨ Misfit 8 option.prefixLength ∨
        Misfit 8 option.flags ∨ Misfit 32 option.validLifetime ∨
        Misfit 32 option.preferredLifetime ∨ Misfit 32 option.reserved := by
  refine ⟨⟨bounded _, bounded _, bounded _, bounded _⟩, ?_, ?_, ?_, ?_⟩
  · intro header
    simp [toBytes?_eq_none_iff, Layout.row, not_misfit_address]
  · intro header
    simp [toBytes?_eq_none_iff, Layout.row]
  · intro header
    simp [toBytes?_eq_none_iff, Layout.row]
  · intro option
    simp [toBytes?_eq_none_iff, Layout.row, not_misfit_address]

def wideMessage : Icmpv6Header where
  kind := 134
  code := 0
  checksum := 0x10000

theorem headers_bounded_behind :
    Bytes.rowAt? [9, 134, 0, 1, 2] (-4) 4 = some [134, 0, 1, 2] ∧
      (parse [9, 134, 0, 1, 2] (-4) : Except Truncated Icmpv6Header) =
        .error ⟨"ICMPv6 header", 4, -4, 5⟩ ∧
      (∃ bytes, Bytes.rowAt? [9, 134, 0, 1, 2] 1 4 = some bytes ∧
        (parse [9, 134, 0, 1, 2] 1 : Except Truncated Icmpv6Header) =
          .ok (ofBytes bytes)) ∧
      toBytes? wideMessage = none ∧
      Holds [134, 0, 1, 2] [(1, 134), (1, 0)] 2 0x102 := by
  obtain ⟨⟨-, message, -, -⟩, -, written, -, -⟩ := headers_bounded
  have before : (-4 : Int) < 0 ∨ ((5 : Nat) : Int) - -4 < (4 : Nat) := .inl (by decide)
  obtain ⟨bytes, found, -, -, read⟩ :=
    message.parse_succeeds [9, 134, 0, 1, 2] 1 (by decide) (by decide)
  have own := message.write_succeeds ⟨134, 0, 0x102⟩ [134, 0, 1, 2] (by decide)
  exact ⟨by decide, (message.parse_fails _ _ _).mpr ⟨before, rfl⟩, ⟨bytes, found, read⟩,
    (written wideMessage).mpr (.inr (.inr (by decide))), own.2 [(1, 134), (1, 0)] 2 0x102 [] rfl⟩

end Packet

end ThreadLab
