import Mathlib.Algebra.GroupWithZero.Nat
import ThreadLab.Ip.V6.Basic
import ThreadLab.Packet.Header

namespace ThreadLab

theorem Bytes.slice_append (before bytes after : Bytes) :
    (before ++ bytes ++ after).slice before.length bytes.length = bytes := by
  rw [Bytes.slice, List.append_assoc, List.drop_left, List.take_left]

theorem Bytes.length_slice {bytes : Bytes} {start size : Nat} (inside : start + size ≤ bytes.length) :
    (bytes.slice start size).length = size := by
  rw [Bytes.slice, List.length_take, List.length_drop]
  omega

namespace Packet

def InRange (width : Nat) (value : Int) : Prop :=
  0 ≤ value ∧ value < (Nat.pow 256 width : Nat)

instance (width : Nat) (value : Int) : Decidable (InRange width value) :=
  inferInstanceAs (Decidable (_ ∧ _))

theorem field?_of_inRange {width : Nat} {value : Int} (inside : InRange width value) :
    field? width value = some (Bytes.ofNumber width value.toNat) :=
  if_pos inside

theorem field?_of_not_inRange {width : Nat} {value : Int} (outside : ¬ InRange width value) :
    field? width value = none :=
  if_neg outside

theorem inRange_of_field? {width : Nat} {value : Int} {bytes : Bytes}
    (written : field? width value = some bytes) :
    InRange width value ∧ bytes = Bytes.ofNumber width value.toNat := by
  by_cases inside : InRange width value
  · rw [field?_of_inRange inside] at written
    exact ⟨inside, (Option.some.inj written).symm⟩
  · rw [field?_of_not_inRange inside] at written
    cases written

theorem length_of_field? {width : Nat} {value : Int} {bytes : Bytes}
    (written : field? width value = some bytes) : bytes.length = width := by
  rw [(inRange_of_field? written).2, Bytes.length_ofNumber]

theorem number_of_field? {width : Nat} {value : Int} {bytes : Bytes}
    (written : field? width value = some bytes) : (bytes.number : Int) = value := by
  obtain ⟨⟨positive, below⟩, rfl⟩ := inRange_of_field? written
  have fits : value.toNat < Nat.pow 256 width := by omega
  rw [Bytes.number_ofNumber fits]
  exact Int.toNat_of_nonneg positive

theorem field?_number (bytes : Bytes) : field? bytes.length bytes.number = some bytes := by
  have below := bytes.number_lt
  have inside : InRange bytes.length bytes.number := ⟨by omega, by omega⟩
  rw [field?_of_inRange inside, Int.toNat_natCast, Bytes.ofNumber_number]

abbrev Row := List (Nat × Int)

namespace Row

def widths (row : Row) : List Nat := row.map Prod.fst

def Fits (row : Row) : Prop := ∀ field ∈ row, InRange field.1 field.2

instance (row : Row) : Decidable row.Fits :=
  inferInstanceAs (Decidable (∀ field ∈ row, _))

def write? : Row → Option Bytes
  | [] => some []
  | (width, value) :: row => do
    let bytes ← field? width value
    let rest ← write? row
    return bytes ++ rest

def read : List Nat → Bytes → Row
  | [], _ => []
  | width :: widths, bytes =>
    (width, (Bytes.number (bytes.take width) : Int)) :: read widths (bytes.drop width)

theorem write?_cons_eq_some {width : Nat} {value : Int} {row : Row} {bytes : Bytes}
    (written : write? ((width, value) :: row) = some bytes) :
    ∃ first rest, field? width value = some first ∧ row.write? = some rest ∧
      bytes = first ++ rest := by
  rw [write?] at written
  obtain ⟨first, wrote, remaining⟩ := Option.bind_eq_some_iff.mp written
  obtain ⟨rest, others, joined⟩ := Option.bind_eq_some_iff.mp remaining
  exact ⟨first, rest, wrote, others, (Option.some.inj joined).symm⟩

theorem length_of_write? {row : Row} {bytes : Bytes} (written : row.write? = some bytes) :
    bytes.length = row.widths.sum := by
  induction row generalizing bytes with
  | nil => cases written; rfl
  | cons field row ih =>
    obtain ⟨first, rest, wrote, others, rfl⟩ := write?_cons_eq_some written
    have head := length_of_field? wrote
    have tail := ih others
    simp only [widths, List.map_cons, List.sum_cons, List.length_append] at tail ⊢
    omega

theorem read_of_write? {row : Row} {bytes : Bytes} (written : row.write? = some bytes) :
    read row.widths bytes = row := by
  induction row generalizing bytes with
  | nil => rfl
  | cons field row ih =>
    obtain ⟨first, rest, wrote, others, rfl⟩ := write?_cons_eq_some written
    have size := length_of_field? wrote
    have value := number_of_field? wrote
    have tail := ih others
    rw [widths, List.map_cons, read, ← size, List.take_left, List.drop_left, value]
    rw [widths] at tail
    rw [tail, size]

theorem write?_read {widths : List Nat} {bytes : Bytes} (size : bytes.length = widths.sum) :
    write? (read widths bytes) = some bytes := by
  induction widths generalizing bytes with
  | nil => rw [List.length_eq_zero_iff.mp size]; rfl
  | cons width widths ih =>
    rw [List.sum_cons] at size
    have enough : (bytes.take width).length = width := by
      rw [List.length_take]
      omega
    have first := field?_number (bytes.take width)
    rw [enough] at first
    have remaining : (bytes.drop width).length = widths.sum := by
      rw [List.length_drop]
      omega
    rw [read, write?, first, ih remaining]
    exact congrArg some (List.take_append_drop width bytes)

theorem write?_isSome_iff (row : Row) : row.write?.isSome ↔ row.Fits := by
  induction row with
  | nil => simp [write?, Fits]
  | cons field row ih =>
    obtain ⟨width, value⟩ := field
    have split : Fits ((width, value) :: row) ↔ InRange width value ∧ Fits row := by
      simp [Fits]
    rw [split, ← ih]
    by_cases inside : InRange width value
    · rw [write?, field?_of_inRange inside]
      cases rest : write? row <;> simp [inside]
    · rw [write?, field?_of_not_inRange inside]
      simp [inside]

end Row

open Header

theorem Header.fits_of_parse {α : Type} [Header α] {buffer : Bytes} {offset : Int} {header : α}
    (found : parse buffer offset = .ok header) :
    Fits α buffer offset ∧ header = ofBytes (buffer.slice offset.toNat (size α)) := by
  rw [parse] at found
  split at found
  · rename_i fits
    exact ⟨fits, (Except.ok.inj found).symm⟩
  · cases found

/-- Headers that are laid out as a row of numbers. An address is the number of its bits, and its
scope is not part of the row. -/
class Layout (α : Type) [Header α] where
  widths : List Nat
  row : α → Row
  addresses : α → List Ip.V6
  withoutScopes : α → α
  widths_row : ∀ header, (row header).widths = widths
  sum_widths : widths.sum = size α
  toBytes?_eq : ∀ header, toBytes? header = (row header).write?
  row_ofBytes : ∀ bytes, bytes.length = size α → row (ofBytes bytes) = Row.read widths bytes
  withoutScopes_ofBytes : ∀ bytes, withoutScopes (ofBytes bytes) = ofBytes bytes
  withoutScopes_of_row : ∀ left right, row left = row right →
    withoutScopes left = withoutScopes right
  withoutScopes_eq_iff : ∀ header,
    withoutScopes header = header ↔ ∀ address ∈ addresses header, address.scope = none

namespace Layout

variable {α : Type} [Header α] [Layout α]

def Encodable (header : α) : Prop := (row header).Fits

instance (header : α) : Decidable (Encodable header) :=
  inferInstanceAs (Decidable (row header).Fits)

def ScopeFree (header : α) : Prop := ∀ address ∈ addresses header, address.scope = none

instance (header : α) : Decidable (ScopeFree header) :=
  inferInstanceAs (Decidable (∀ address ∈ addresses header, _))

theorem exists_toBytes? {header : α} (encodable : Encodable header) :
    ∃ bytes, toBytes? header = some bytes := by
  rw [toBytes?_eq]
  exact Option.isSome_iff_exists.mp ((Row.write?_isSome_iff _).mpr encodable)

theorem length_of_toBytes? {header : α} {bytes : Bytes} (written : toBytes? header = some bytes) :
    bytes.length = size α := by
  rw [toBytes?_eq] at written
  rw [Row.length_of_write? written, widths_row, sum_widths]

theorem ofBytes_of_toBytes? {header : α} {bytes : Bytes} (written : toBytes? header = some bytes) :
    ofBytes bytes = withoutScopes header := by
  have size := length_of_toBytes? written
  have same : row (ofBytes bytes : α) = row header := by
    rw [toBytes?_eq] at written
    rw [row_ofBytes bytes size, ← widths_row header, Row.read_of_write? written]
  rw [← withoutScopes_ofBytes, withoutScopes_of_row _ _ same]

theorem toBytes?_ofBytes {bytes : Bytes} (whole : bytes.length = size α) :
    toBytes? (ofBytes bytes : α) = some bytes := by
  rw [toBytes?_eq, row_ofBytes bytes whole]
  exact Row.write?_read (whole.trans sum_widths.symm)

theorem parse_append_toBytes? {header : α} {bytes : Bytes} (written : toBytes? header = some bytes)
    (before after : Bytes) :
    parse (before ++ bytes ++ after) before.length = .ok (withoutScopes header) := by
  have size := length_of_toBytes? written
  have fits : Fits α (before ++ bytes ++ after) before.length := by
    rw [Fits, List.length_append, List.length_append]
    omega
  rw [parse, if_pos fits, Int.toNat_natCast, ← size, Bytes.slice_append,
    ofBytes_of_toBytes? written]

theorem toBytes?_of_parse {buffer : Bytes} {offset : Int} {header : α}
    (found : parse buffer offset = .ok header) :
    toBytes? header = some (buffer.slice offset.toNat (size α)) := by
  obtain ⟨⟨positive, inside⟩, rfl⟩ := fits_of_parse found
  apply toBytes?_ofBytes
  apply Bytes.length_slice
  omega

theorem eq_of_toBytes? {left right : α} {bytes : Bytes} (leftFree : ScopeFree left)
    (rightFree : ScopeFree right) (leftWritten : toBytes? left = some bytes)
    (rightWritten : toBytes? right = some bytes) : left = right := by
  rw [← (withoutScopes_eq_iff left).mpr leftFree, ← ofBytes_of_toBytes? leftWritten,
    ofBytes_of_toBytes? rightWritten, (withoutScopes_eq_iff right).mpr rightFree]

end Layout

end Packet

end ThreadLab
