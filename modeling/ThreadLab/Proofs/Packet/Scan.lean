import ThreadLab.Proofs.Packet.Places

namespace ThreadLab.Packet

open Header

inductive ScanFault where
  | outside (place : Nat)
  | unfinished
deriving DecidableEq

def byteAt (packet : Bytes) (place : Nat) : Except ScanFault UInt8 :=
  match packet[place]? with
  | some byte => .ok byte
  | none => .error (.outside place)

def scan (packet : Bytes) (steps place : Nat) : Except ScanFault (List PrefixInformation) :=
  if packet.length < place + 2 then return []
  else
    match steps with
    | 0 => throw .unfinished
    | steps + 1 => do
      let kind ← byteAt packet place
      let length ← byteAt packet (place + 1)
      if isPrefixInformation kind then
        match (parse packet place : Except Truncated PrefixInformation) with
        | .ok option => return option :: (← scan packet steps (place + prefixInformationSize))
        | .error _ => return []
      else if length = 0 then return []
      else scan packet steps (place + 8 * length.toNat)

def scanPacket (steps : Nat) (packet : Option Bytes) :
    Except ScanFault (List PrefixInformation) :=
  match packet with
  | none => return []
  | some bytes =>
    match isRouterAdvertisement bytes with
    | .ok true => scan bytes steps optionsOffset
    | .ok false => return []
    | .error _ => return []

theorem byteAt_of_getElem? {packet : Bytes} {place : Nat} {byte : UInt8}
    (here : packet[place]? = some byte) : byteAt packet place = .ok byte := by
  rw [byteAt, here]

theorem scan_of_short {packet : Bytes} {steps place : Nat} (short : packet.length < place + 2) :
    scan packet steps place = .ok [] := by
  unfold scan
  rw [if_pos short]
  rfl

theorem exists_fault_of_cut {packet : Bytes} {place : Nat} (cut : ¬place + 32 ≤ packet.length) :
    ∃ fault, (parse packet place : Except Truncated PrefixInformation) = .error fault := by
  rcases read : (parse packet place : Except Truncated PrefixInformation) with fault | option
  · exact ⟨fault, rfl⟩
  · exact absurd (parse_eq_ok_iff.mp read).1 cut

theorem scan_succ {packet : Bytes} {place : Nat} (room : place + 2 ≤ packet.length) (steps : Nat) :
    scan packet (steps + 1) place =
      match sizeAt? packet place with
      | some size => (scan packet steps (place + size)).map fun rest =>
          if PrefixAt packet place then prefixAt packet place :: rest else rest
      | none => .ok [] := by
  obtain ⟨kind, kindHere⟩ := exists_byte (by omega : place < packet.length)
  obtain ⟨length, lengthHere⟩ := exists_byte (by omega : place + 1 < packet.length)
  rw [scan, if_neg (by omega), sizeAt?_of_bytes kindHere lengthHere]
  simp only [byteAt_of_getElem? kindHere, byteAt_of_getElem? lengthHere, isPrefixInformation_iff,
    Bind.bind, Except.bind, Pure.pure, Except.pure]
  by_cases three : kind = 3
  · subst three
    by_cases whole : place + 32 ≤ packet.length
    · have read : parse packet place = .ok (prefixAt packet place) :=
        parse_eq_ok_iff.mpr ⟨whole, rfl⟩
      have stands : PrefixAt packet place := ⟨kindHere, whole⟩
      have size : prefixInformationSize = 32 := rfl
      simp only [if_true, whole, read, size, stands]
      cases scan packet steps (place + 32) <;> rfl
    · obtain ⟨fault, read⟩ := exists_fault_of_cut whole
      simp only [if_true, whole, if_false, read]
  · have passed : ¬PrefixAt packet place := by
      rintro ⟨here, -⟩
      exact three (Option.some.inj (kindHere.symm.trans here))
    by_cases zero : length = 0
    · simp only [three, if_false, zero, if_true]
    · simp only [three, if_false, zero, passed]
      cases scan packet steps (place + 8 * length.toNat) <;> rfl

theorem prefixesFrom_of_size {packet : Bytes} {place size : Nat}
    (found : sizeAt? packet place = some size) :
    prefixesFrom packet place =
      if PrefixAt packet place then place :: prefixesFrom packet (place + size)
      else prefixesFrom packet (place + size) := by
  rw [prefixesFrom, headersFrom_of_size found, List.filter_cons]
  simp only [decide_eq_true_eq, prefixesFrom]

theorem prefixesFrom_of_end {packet : Bytes} {place : Nat}
    (ends : sizeAt? packet place = none) : prefixesFrom packet place = [] := by
  rw [← optionSize?_drop] at ends
  have none := prefixOptions_of_end ends
  rw [prefixOptions_drop] at none
  exact List.map_eq_nil_iff.mp none

theorem scan_eq {packet : Bytes} {steps place : Nat}
    (enough : (headersFrom packet place).length ≤ steps) :
    scan packet steps place = .ok ((prefixesFrom packet place).map (prefixAt packet)) := by
  -- Every step meets one option, so the options to meet bound the steps that are needed.
  fun_induction headersFrom packet place generalizing steps with
  | case1 place short =>
    rw [scan_of_short short, prefixesFrom_of_end (sizeAt?_of_short short)]
    rfl
  | case2 place room size found ih =>
    cases steps with
    | zero => exact absurd enough (Nat.not_succ_le_zero _)
    | succ steps =>
      have rest := ih (Nat.le_of_succ_le_succ enough)
      rw [scan_succ (by omega), found, prefixesFrom_of_size found]
      simp only [rest, Except.map]
      split <;> rfl
  | case3 place room ends =>
    cases steps with
    | zero => exact absurd enough (Nat.not_succ_le_zero _)
    | succ steps =>
      rw [scan_succ (by omega), ends, prefixesFrom_of_end ends]
      rfl

/-- Options that stand whole in a Router Advertisement, at places of which none is inside another
option, and that are written to the bytes there. -/
structure ReadFrom (packet : Bytes) (places : List Nat) (options : List PrefixInformation) :
    Prop where
  carries : packet[6]? = some 58
  advertises : packet[40]? = some 134
  aligned : ∀ place ∈ places, 8 ∣ place
  after : ∀ place ∈ places, 56 ≤ place
  inside : ∀ place ∈ places, place + 32 ≤ packet.length
  apart : places.Pairwise fun earlier later => earlier + 32 ≤ later
  kind : ∀ place ∈ places, packet[place]? = some 3
  bytes : List.Forall₂ (fun place option => toBytes? option = some (packet.slice place 32))
    places options
  room : 56 + 32 * options.length ≤ packet.length

theorem room_of_apart {places : List Nat} {start limit : Nat} (fits : start ≤ limit)
    (after : ∀ place ∈ places, start ≤ place) (inside : ∀ place ∈ places, place + 32 ≤ limit)
    (apart : places.Pairwise fun earlier later => earlier + 32 ≤ later) :
    start + 32 * places.length ≤ limit := by
  induction places generalizing start with
  | nil => omega
  | cons place places ih =>
    obtain ⟨later, others⟩ := List.pairwise_cons.mp apart
    have begins := after place (by simp)
    have ends := inside place (by simp)
    have rest := ih ends later (fun other met => inside other (List.mem_cons_of_mem _ met)) others
    rw [List.length_cons]
    omega

theorem readFrom_of_advertisement {packet : Bytes}
    (found : isRouterAdvertisement packet = .ok true) :
    ReadFrom packet (prefixesFrom packet 56)
      ((prefixesFrom packet 56).map (prefixAt packet)) := by
  obtain ⟨whole, carries, advertises⟩ := (isRouterAdvertisement_iff packet).mp found
  have after : ∀ place ∈ prefixesFrom packet 56, 56 ≤ place := fun _ met => (mem_prefixesFrom met).1
  have inside : ∀ place ∈ prefixesFrom packet 56, place + 32 ≤ packet.length :=
    fun _ met => (mem_prefixesFrom met).2.2.2
  have apart := pairwise_prefixesFrom packet 56
  refine ⟨carries, advertises, ?_, after, inside, apart, ?_, ?_, ?_⟩
  · intro place met
    obtain ⟨_, units, -⟩ := mem_prefixesFrom met
    omega
  · exact fun _ met => (mem_prefixesFrom met).2.2.1
  · rw [List.forall₂_map_right_iff, List.forall₂_same]
    intro place met
    apply Layout.toBytes?_ofBytes
    exact Bytes.length_slice (inside place met)
  · rw [List.length_map]
    exact room_of_apart whole after inside apart

/-- The loop ends after at most one step for every unit of eight bytes that is begun after the
headers. It asks for no byte outside of the packet, and all that it finds stands there. -/
theorem advertisedPrefixes_scanned (packet : Option Bytes) :
    scanPacket (((packet.getD []).length - 56 + 7) / 8) packet = .ok (advertisedPrefixes packet) ∧
      (advertisedPrefixes packet ≠ [] → ∃ bytes places, packet = some bytes ∧
        ReadFrom bytes places (advertisedPrefixes packet)) := by
  match packet with
  | none => exact ⟨rfl, fun found => absurd rfl found⟩
  | some bytes =>
    by_cases found : isRouterAdvertisement bytes = .ok true
    · have listed : advertisedPrefixes (some bytes) =
          (prefixesFrom bytes 56).map (prefixAt bytes) := by
        rw [advertisedPrefixes_of_advertisement found]
        exact prefixOptions_drop bytes 56
      rw [listed]
      refine ⟨?_, fun _ => ⟨bytes, _, rfl, readFrom_of_advertisement found⟩⟩
      simp only [scanPacket, found]
      exact scan_eq (length_headersFrom_le bytes 56)
    · rw [advertisedPrefixes_of_other found]
      refine ⟨?_, fun nonempty => absurd rfl nonempty⟩
      simp only [scanPacket]
      split
      · rename_i advertises
        exact absurd advertises found
      · rfl
      · rfl

theorem advertisedPrefixes_scanned_noisy :
    advertisedPrefixes (some (noisyPacket 3)) ≠ [] ∧
      ∃ bytes places, some (noisyPacket 3) = some bytes ∧
        ReadFrom bytes places (advertisedPrefixes (some (noisyPacket 3))) := by
  have found : advertisedPrefixes (some (noisyPacket 3)) ≠ [] := by decide +kernel
  exact ⟨found, (advertisedPrefixes_scanned (some (noisyPacket 3))).2 found⟩

end ThreadLab.Packet
