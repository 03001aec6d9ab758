import Mathlib.Data.List.Forall2
import ThreadLab.Proofs.Packet.Codec
import ThreadLab.Proofs.Packet.Walk
import ThreadLab.Proofs.Rows

namespace ThreadLab

theorem Bytes.slice_slice {bytes : Bytes} {start size inner width : Nat}
    (inside : inner + width ≤ size) :
    (bytes.slice start size).slice inner width = bytes.slice (start + inner) width := by
  simp only [slice, List.drop_take, List.drop_drop, List.take_take]
  rw [Nat.min_eq_left (by omega)]

theorem Bytes.number_slice_one {bytes : Bytes} {place : Nat} {byte : UInt8}
    (here : bytes[place]? = some byte) : number (bytes.slice place 1) = byte.toNat := by
  obtain ⟨inside, rfl⟩ := List.getElem?_eq_some_iff.mp here
  rw [slice, List.drop_eq_getElem_cons inside, List.take_succ_cons, List.take_zero]
  simp [number, Positional.ofDigits]

theorem Bytes.slice_congr {bytes other : Bytes} {start size : Nat}
    (agree : ∀ place, start ≤ place → place < start + size → bytes[place]? = other[place]?) :
    bytes.slice start size = other.slice start size := by
  apply List.ext_getElem?
  intro index
  by_cases inside : index < size
  · simp only [slice, List.getElem?_take_of_lt inside, List.getElem?_drop]
    exact agree (start + index) (by omega) (by omega)
  · simp only [slice, List.getElem?_take, if_neg inside]

namespace Packet

open Header

theorem parse_eq_ok_iff {α : Type} [Header α] {buffer : Bytes} {offset : Nat} {header : α} :
    parse buffer offset = .ok header ↔
      offset + size α ≤ buffer.length ∧ ofBytes (buffer.slice offset (size α)) = header := by
  have fits : Fits α buffer offset ↔ offset + size α ≤ buffer.length := by
    rw [Fits]
    omega
  by_cases inside : offset + size α ≤ buffer.length
  · rw [parse, if_pos (fits.mpr inside), Int.toNat_natCast, Except.ok.injEq]
    exact (and_iff_right inside).symm
  · rw [parse, if_neg (mt fits.mp inside)]
    simp [inside]

theorem parse_ipv6Header {packet : Bytes} (whole : 40 ≤ packet.length) :
    (parse packet 0 : Except Truncated Ipv6Header) = .ok (ofBytes (packet.slice 0 40)) :=
  parse_eq_ok_iff.mpr ⟨by change 0 + 40 ≤ _; omega, rfl⟩

theorem parse_icmpv6Header {packet : Bytes} (whole : 44 ≤ packet.length) :
    (parse packet icmpv6Offset : Except Truncated Icmpv6Header) =
      .ok (ofBytes (packet.slice 40 4)) :=
  parse_eq_ok_iff.mpr ⟨whole, rfl⟩

theorem nextHeader_ofBytes {packet : Bytes} {byte : UInt8} (here : packet[6]? = some byte) :
    (ofBytes (packet.slice 0 40) : Ipv6Header).nextHeader = byte.toNat := by
  change (Bytes.number ((packet.slice 0 40).slice 6 1) : Int) = _
  rw [Bytes.slice_slice (by decide), Bytes.number_slice_one here]

theorem kind_ofBytes {packet : Bytes} {byte : UInt8} (here : packet[40]? = some byte) :
    (ofBytes (packet.slice 40 4) : Icmpv6Header).kind = byte.toNat := by
  change (Bytes.number ((packet.slice 40 4).slice 0 1) : Int) = _
  rw [Bytes.slice_slice (by decide), Bytes.number_slice_one here]

theorem toNat_eq_iff (byte : UInt8) (value : Nat) (below : value < 256) :
    (byte.toNat : Int) = value ↔ byte = UInt8.ofNat value := by
  rw [Int.ofNat_inj, ← UInt8.toNat_inj, UInt8.toNat_ofNat_of_lt' below]

theorem isRouterAdvertisement_iff (packet : Bytes) :
    isRouterAdvertisement packet = .ok true ↔
      56 ≤ packet.length ∧ packet[6]? = some 58 ∧ packet[40]? = some 134 := by
  by_cases whole : 56 ≤ packet.length
  · have first : packet[6]? = some packet[6] := List.getElem?_eq_getElem (by omega)
    have second : packet[40]? = some packet[40] := List.getElem?_eq_getElem (by omega)
    have header := parse_ipv6Header (show 40 ≤ packet.length by omega)
    have message := parse_icmpv6Header (show 44 ≤ packet.length by omega)
    have router : (parse packet routerOffset : Except Truncated RouterHeader) =
        .ok (ofBytes (packet.slice 44 12)) :=
      parse_eq_ok_iff.mpr ⟨by change 44 + 12 ≤ _; omega, rfl⟩
    have carries : (packet[6].toNat : Int) = icmpv6Protocol ↔ packet[6] = 58 :=
      toNat_eq_iff packet[6] 58 (by decide)
    have advertises : (packet[40].toNat : Int) = Icmpv6Type.routerAdvertisement.number ↔
      packet[40] = 134 := toNat_eq_iff packet[40] 134 (by decide)
    simp only [isRouterAdvertisement, header, message, router, Bind.bind, Except.bind, Pure.pure,
      Except.pure, nextHeader_ofBytes first, kind_ofBytes second, first, second, ne_eq, carries,
      advertises]
    by_cases carried : packet[6] = 58 <;> by_cases advertised : packet[40] = 134 <;>
      simp [carried, advertised, whole]
  · constructor
    · intro found
      obtain ⟨header, -, rest⟩ := bind_eq_ok.mp found
      split at rest
      · cases rest
      · obtain ⟨message, -, rest⟩ := bind_eq_ok.mp rest
        split at rest
        · cases rest
        · obtain ⟨router, read, -⟩ := bind_eq_ok.mp rest
          have inside : 44 + 12 ≤ packet.length := (parse_eq_ok_iff.mp read).1
          omega
    · rintro ⟨inside, -⟩
      exact absurd inside whole

theorem advertisedPrefixes_of_advertisement {packet : Bytes}
    (advertises : isRouterAdvertisement packet = .ok true) :
    advertisedPrefixes (some packet) = prefixOptions (packet.drop optionsOffset) := by
  simp only [advertisedPrefixes, advertises]

theorem advertisedPrefixes_of_other {packet : Bytes}
    (other : isRouterAdvertisement packet ≠ .ok true) : advertisedPrefixes (some packet) = [] := by
  simp only [advertisedPrefixes]

theorem isRouterAdvertisement_extend {packet : Bytes}
    (advertises : isRouterAdvertisement packet = .ok true) (more : Bytes) :
    isRouterAdvertisement (packet ++ more) = .ok true := by
  obtain ⟨whole, carries, announces⟩ := (isRouterAdvertisement_iff packet).mp advertises
  rw [isRouterAdvertisement_iff, List.getElem?_append_left (by omega),
    List.getElem?_append_left (by omega), List.length_append]
  exact ⟨by omega, carries, announces⟩

theorem advertisedPrefixes_append (packet more : Bytes) :
    advertisedPrefixes (some packet) <+: advertisedPrefixes (some (packet ++ more)) := by
  by_cases advertises : isRouterAdvertisement packet = .ok true
  · obtain ⟨whole, -, -⟩ := (isRouterAdvertisement_iff packet).mp advertises
    have inside : optionsOffset ≤ packet.length := whole
    rw [advertisedPrefixes_of_advertisement advertises,
      advertisedPrefixes_of_advertisement (isRouterAdvertisement_extend advertises more),
      List.drop_append_of_le_length inside]
    exact prefixOptions_prefix _ more
  · rw [advertisedPrefixes_of_other advertises]
    exact List.nil_prefix

/-- Bytes after the end of a packet, or the loss of its last bytes, change none of the Prefix
Information Options before them. -/
theorem advertisedPrefixes_prefix (packet more : Bytes) (size : Nat) :
    advertisedPrefixes (some packet) <+: advertisedPrefixes (some (packet ++ more)) ∧
      advertisedPrefixes (some (packet.take size)) <+: advertisedPrefixes (some packet) := by
  refine ⟨advertisedPrefixes_append packet more, ?_⟩
  have cut := advertisedPrefixes_append (packet.take size) (packet.drop size)
  rwa [List.take_append_drop] at cut

theorem optionSize?_of_short {rest : Bytes} (short : rest.length < 2) : optionSize? rest = none := by
  match rest with
  | [] | [_] => rfl
  | _ :: _ :: _ => simp only [List.length_cons] at short; omega

theorem exists_byte {packet : Bytes} {place : Nat} (inside : place < packet.length) :
    ∃ byte, packet[place]? = some byte :=
  ⟨packet[place], List.getElem?_eq_getElem inside⟩

/-- The size of the option at a place, unless the search ends there: 32 bytes for a Prefix Information
Option, which has to be whole, and eight times its length byte for another one. -/
def sizeAt? (packet : Bytes) (place : Nat) : Option Nat :=
  match packet[place]?, packet[place + 1]? with
  | some kind, some length =>
    if kind = 3 then if place + 32 ≤ packet.length then some 32 else none
    else if length = 0 then none
    else some (8 * length.toNat)
  | _, _ => none

theorem sizeAt?_of_bytes {packet : Bytes} {place : Nat} {kind length : UInt8}
    (kindHere : packet[place]? = some kind) (lengthHere : packet[place + 1]? = some length) :
    sizeAt? packet place =
      if kind = 3 then if place + 32 ≤ packet.length then some 32 else none
      else if length = 0 then none
      else some (8 * length.toNat) := by
  rw [sizeAt?, kindHere, lengthHere]

theorem sizeAt?_of_short {packet : Bytes} {place : Nat} (short : packet.length < place + 2) :
    sizeAt? packet place = none := by
  have missing : packet[place + 1]? = none := List.getElem?_eq_none (by omega)
  rw [sizeAt?, missing]
  cases packet[place]? <;> rfl

theorem sizeAt?_congr {packet other : Bytes} {place : Nat}
    (size : packet.length = other.length) (kind : packet[place]? = other[place]?)
    (length : packet[place + 1]? = other[place + 1]?) :
    sizeAt? packet place = sizeAt? other place := by
  rw [sizeAt?, sizeAt?, size, kind, length]

theorem optionSize?_drop (packet : Bytes) (place : Nat) :
    optionSize? (packet.drop place) = sizeAt? packet place := by
  by_cases room : place + 2 ≤ packet.length
  · obtain ⟨kind, kindHere⟩ := exists_byte (by omega : place < packet.length)
    obtain ⟨length, lengthHere⟩ := exists_byte (by omega : place + 1 < packet.length)
    rw [sizeAt?_of_bytes kindHere lengthHere]
    obtain ⟨inside, rfl⟩ := List.getElem?_eq_some_iff.mp kindHere
    obtain ⟨next, rfl⟩ := List.getElem?_eq_some_iff.mp lengthHere
    have cut : packet.drop place =
        packet[place] :: packet[place + 1] :: packet.drop (place + 2) := by
      rw [List.drop_eq_getElem_cons inside, List.drop_eq_getElem_cons next]
    have size : (packet.drop place).length = packet.length - place := List.length_drop
    have whole : 32 ≤ packet.length - place ↔ place + 32 ≤ packet.length := by omega
    by_cases three : packet[place] = 3
    · rw [three] at cut
      simp only [optionSize?_information cut, size, whole, three, if_true]
    · rw [cut, optionSize?_other three, if_neg three]
  · rw [sizeAt?_of_short (by omega)]
    exact optionSize?_of_short (by rw [List.length_drop]; omega)

theorem sizeAt?_units {packet : Bytes} {place size : Nat} (found : sizeAt? packet place = some size) :
    8 ≤ size ∧ 8 ∣ size := by
  rw [← optionSize?_drop] at found
  exact optionSize?_units found

theorem prefixInformation?_drop (packet : Bytes) (place : Nat) :
    prefixInformation? (packet.drop place) =
      if packet[place]? = some 3 ∧ place + 32 ≤ packet.length then
        some (ofBytes (packet.slice place 32))
      else none := by
  by_cases inside : place < packet.length
  · have cut := List.drop_eq_getElem_cons inside
    have here := List.getElem?_eq_getElem inside
    by_cases three : packet[place] = 3
    · have size : (packet.drop place).length = packet.length - place := List.length_drop
      rw [three] at cut here
      by_cases whole : place + 32 ≤ packet.length
      · rw [prefixInformation?_information cut, if_pos (by omega), if_pos ⟨here, whole⟩, Bytes.slice]
      · rw [prefixInformation?_information cut, if_neg (by omega), if_neg (mt And.right whole)]
    · have other : packet[place]? ≠ some 3 := by simp [here, three]
      rw [cut, prefixInformation?_other three, if_neg (mt And.left other)]
  · rw [List.drop_eq_nil_of_le (by omega), if_neg (by omega)]
    rfl

def headersFrom (packet : Bytes) (place : Nat) : List Nat :=
  if packet.length < place + 2 then []
  else
    match _found : sizeAt? packet place with
    | some size => place :: headersFrom packet (place + size)
    | none => [place]
termination_by packet.length - place
decreasing_by
  have := (sizeAt?_units ‹_›).1
  omega

theorem headersFrom_of_short {packet : Bytes} {place : Nat} (short : packet.length < place + 2) :
    headersFrom packet place = [] := by
  rw [headersFrom, if_pos short]

theorem headersFrom_of_size {packet : Bytes} {place size : Nat}
    (found : sizeAt? packet place = some size) :
    headersFrom packet place = place :: headersFrom packet (place + size) := by
  have room : ¬packet.length < place + 2 := by
    intro short
    cases (sizeAt?_of_short short).symm.trans found
  rw [headersFrom, if_neg room]
  split
  · rename_i other same
    cases found.symm.trans same
    rfl
  · rename_i none
    cases found.symm.trans none

theorem headersFrom_of_end {packet : Bytes} {place : Nat} (room : place + 2 ≤ packet.length)
    (ends : sizeAt? packet place = none) : headersFrom packet place = [place] := by
  rw [headersFrom, if_neg (by omega)]
  split
  · rename_i size found
    cases ends.symm.trans found
  · rfl

theorem walk_drop (packet : Bytes) (place : Nat) :
    walk (packet.drop place) = (headersFrom packet place).map packet.drop := by
  fun_induction headersFrom packet place with
  | case1 place short => exact walk_of_short (by rw [List.length_drop]; omega)
  | case2 place _ size found ih =>
    rw [← optionSize?_drop] at found
    rw [walk_of_size found, List.drop_drop, ih]
    rfl
  | case3 place room ends =>
    rw [← optionSize?_drop] at ends
    exact walk_of_end (by rw [List.length_drop]; omega) ends

theorem headersFrom_congr {packet other : Bytes} {place : Nat}
    (size : packet.length = other.length)
    (agree : ∀ header ∈ headersFrom packet place, packet[header]? = other[header]? ∧
      packet[header + 1]? = other[header + 1]?) :
    headersFrom other place = headersFrom packet place := by
  fun_induction headersFrom packet place with
  | case1 place short => exact headersFrom_of_short (by omega)
  | case2 place _ width found ih =>
    obtain ⟨kind, length⟩ := agree place (by simp)
    rw [sizeAt?_congr size kind length] at found
    rw [headersFrom_of_size found, ih fun header member => agree header (List.mem_cons_of_mem _ member)]
  | case3 place room ends =>
    obtain ⟨kind, length⟩ := agree place (by simp)
    rw [sizeAt?_congr size kind length] at ends
    exact headersFrom_of_end (by omega) ends

theorem length_headersFrom_le (packet : Bytes) (place : Nat) :
    (headersFrom packet place).length ≤ (packet.length - place + 7) / 8 := by
  fun_induction headersFrom packet place with
  | case1 place short => exact Nat.zero_le _
  | case2 place room size found ih =>
    have units := sizeAt?_units found
    rw [List.length_cons]
    omega
  | case3 place room ends =>
    rw [List.length_singleton]
    omega

theorem mem_headersFrom {packet : Bytes} {place header : Nat}
    (met : header ∈ headersFrom packet place) :
    place ≤ header ∧ header + 2 ≤ packet.length ∧ 8 ∣ header - place := by
  fun_induction headersFrom packet place with
  | case1 place short => cases met
  | case2 place room size found ih =>
    have units := sizeAt?_units found
    rcases List.mem_cons.mp met with rfl | later
    · omega
    · have after := ih later
      omega
  | case3 place room ends =>
    rw [List.mem_singleton.mp met]
    omega

def PrefixAt (packet : Bytes) (place : Nat) : Prop :=
  packet[place]? = some 3 ∧ place + 32 ≤ packet.length

instance (packet : Bytes) : DecidablePred (PrefixAt packet) :=
  fun _ => inferInstanceAs (Decidable (_ ∧ _))

def prefixAt (packet : Bytes) (place : Nat) : PrefixInformation :=
  ofBytes (packet.slice place 32)

def prefixesFrom (packet : Bytes) (place : Nat) : List Nat :=
  (headersFrom packet place).filter (PrefixAt packet)

theorem prefixOptions_drop (packet : Bytes) (place : Nat) :
    prefixOptions (packet.drop place) = (prefixesFrom packet place).map (prefixAt packet) := by
  have read : prefixInformation? ∘ packet.drop = fun header =>
      if PrefixAt packet header then some (prefixAt packet header) else none :=
    funext (prefixInformation?_drop packet)
  rw [prefixOptions, walk_drop, List.filterMap_map, read, filterMap_ite, prefixesFrom]

theorem sizeAt?_of_prefixAt {packet : Bytes} {place : Nat} (stands : PrefixAt packet place) :
    sizeAt? packet place = some 32 := by
  obtain ⟨three, whole⟩ := stands
  obtain ⟨_, lengthHere⟩ := exists_byte (by omega : place + 1 < packet.length)
  rw [sizeAt?_of_bytes three lengthHere, if_pos rfl, if_pos whole]

theorem mem_prefixesFrom {packet : Bytes} {place option : Nat}
    (met : option ∈ prefixesFrom packet place) :
    place ≤ option ∧ 8 ∣ option - place ∧ PrefixAt packet option := by
  obtain ⟨header, stands⟩ := List.mem_filter.mp met
  obtain ⟨after, -, units⟩ := mem_headersFrom header
  exact ⟨after, units, of_decide_eq_true stands⟩

theorem pairwise_prefixesFrom (packet : Bytes) (place : Nat) :
    (prefixesFrom packet place).Pairwise fun earlier later => earlier + 32 ≤ later := by
  unfold prefixesFrom
  fun_induction headersFrom packet place with
  | case1 place short => exact .nil
  | case2 place room size found ih =>
    rw [List.filter_cons]
    by_cases stands : PrefixAt packet place
    · rw [if_pos (decide_eq_true stands)]
      cases found.symm.trans (sizeAt?_of_prefixAt stands)
      refine .cons (fun later met => ?_) ih
      exact (mem_prefixesFrom met).1
    · rwa [if_neg (by simpa using stands)]
  | case3 place room ends =>
    exact (List.pairwise_singleton _ place).filter _

def headerPlaces (packet : Bytes) : List Nat :=
  match isRouterAdvertisement packet with
  | .ok true => headersFrom packet optionsOffset
  | _ => []

def prefixPlaces (packet : Bytes) : List Nat :=
  (headerPlaces packet).filter (PrefixAt packet)

theorem headerPlaces_of_advertisement {packet : Bytes}
    (advertises : isRouterAdvertisement packet = .ok true) :
    headerPlaces packet = headersFrom packet optionsOffset := by
  rw [headerPlaces, advertises]

theorem headerPlaces_of_other {packet : Bytes}
    (other : isRouterAdvertisement packet ≠ .ok true) : headerPlaces packet = [] := by
  unfold headerPlaces
  split
  · rename_i advertises
    exact absurd advertises other
  · rfl

theorem advertisedPrefixes_eq (packet : Bytes) :
    advertisedPrefixes (some packet) = (prefixPlaces packet).map (prefixAt packet) := by
  rw [prefixPlaces]
  by_cases advertises : isRouterAdvertisement packet = .ok true
  · rw [headerPlaces_of_advertisement advertises, advertisedPrefixes_of_advertisement advertises]
    exact prefixOptions_drop packet optionsOffset
  · rw [headerPlaces_of_other advertises, advertisedPrefixes_of_other advertises]
    rfl

/-- Whether a byte of a packet can count in the search for Prefix Information Options. -/
def Relevant (packet : Bytes) (place : Nat) : Prop :=
  place = 6 ∨ place = 40 ∨
    (∃ header ∈ headerPlaces packet, place = header ∨ place = header + 1) ∨
    ∃ option ∈ prefixPlaces packet, option ≤ place ∧ place < option + 32

instance (packet : Bytes) : DecidablePred (Relevant packet) :=
  fun _ => inferInstanceAs (Decidable (_ ∨ _ ∨ _ ∨ _))

theorem headerPlaces_congr {packet other : Bytes} (size : packet.length = other.length)
    (agree : ∀ place, Relevant packet place → packet[place]? = other[place]?) :
    headerPlaces other = headerPlaces packet := by
  have same : isRouterAdvertisement packet = .ok true ↔ isRouterAdvertisement other = .ok true := by
    rw [isRouterAdvertisement_iff, isRouterAdvertisement_iff, size, agree 6 (.inl rfl),
      agree 40 (.inr (.inl rfl))]
  by_cases advertises : isRouterAdvertisement packet = .ok true
  · have places := headerPlaces_of_advertisement advertises
    rw [headerPlaces_of_advertisement (same.mp advertises), places]
    apply headersFrom_congr size
    intro header met
    rw [← places] at met
    exact ⟨agree header (.inr (.inr (.inl ⟨header, met, .inl rfl⟩))),
      agree (header + 1) (.inr (.inr (.inl ⟨header, met, .inr rfl⟩)))⟩
  · rw [headerPlaces_of_other advertises, headerPlaces_of_other (mt same.mpr advertises)]

theorem prefixPlaces_congr {packet other : Bytes} (size : packet.length = other.length)
    (agree : ∀ place, Relevant packet place → packet[place]? = other[place]?) :
    prefixPlaces other = prefixPlaces packet := by
  rw [prefixPlaces, prefixPlaces, headerPlaces_congr size agree]
  apply List.filter_congr
  intro header met
  have kind := agree header (.inr (.inr (.inl ⟨header, met, .inl rfl⟩)))
  rw [decide_eq_decide, PrefixAt, PrefixAt, kind, size]

/-- Packets of one size that agree at the relevant places have the same Prefix Information Options:
no other byte of the headers, of the options that are passed, or after the last option that is met
can make a difference. -/
theorem advertisedPrefixes_congr (packet other : Bytes) (size : packet.length = other.length)
    (agree : ∀ place, Relevant packet place → packet[place]? = other[place]?) :
    advertisedPrefixes (some packet) = advertisedPrefixes (some other) := by
  rw [advertisedPrefixes_eq, advertisedPrefixes_eq, prefixPlaces_congr size agree]
  apply List.map_congr_left
  intro option met
  have same : packet.slice option 32 = other.slice option 32 :=
    Bytes.slice_congr fun place after before =>
      agree place (.inr (.inr (.inr ⟨option, met, after, before⟩)))
  rw [prefixAt, prefixAt, same]

/-- A packet with a prefix between two other options, of which the last has length zero, and one
byte wherever none counts. -/
def noisyPacket (noise : UInt8) : Bytes :=
  List.flatten [.replicate 6 noise, [58], .replicate 33 noise, [134], .replicate 15 noise,
    [253, 5], .replicate 38 noise,
    [3, 4, 64, 192], .replicate 12 1, [0x20, 1, 0xd, 0xb8], .replicate 12 0,
    [1, 0], .replicate 6 noise]

theorem advertisedPrefixes_congr_noisy :
    (noisyPacket 0).length = (noisyPacket 3).length ∧
      (∀ place, Relevant (noisyPacket 0) place →
        (noisyPacket 0)[place]? = (noisyPacket 3)[place]?) ∧
      advertisedPrefixes (some (noisyPacket 0)) = advertisedPrefixes (some (noisyPacket 3)) := by
  have size : (noisyPacket 0).length = (noisyPacket 3).length := rfl
  have inside : ∀ place < 136, Relevant (noisyPacket 0) place →
      (noisyPacket 0)[place]? = (noisyPacket 3)[place]? := by
    decide +kernel
  have agree : ∀ place, Relevant (noisyPacket 0) place →
      (noisyPacket 0)[place]? = (noisyPacket 3)[place]? := by
    intro place counts
    by_cases before : place < 136
    · exact inside place before counts
    · have beyond : (noisyPacket 0).length ≤ place := Nat.not_lt.mp before
      rw [List.getElem?_eq_none beyond, List.getElem?_eq_none (size ▸ beyond)]
  exact ⟨size, agree, advertisedPrefixes_congr _ _ size agree⟩

end Packet

end ThreadLab
