import ThreadLab.Proofs.Packet.Scan

namespace ThreadLab.Packet

open Header

/-- The size that the option at a place claims, unless it is zero or more than what is left. -/
def claimedSize? (packet : Bytes) (place : Nat) : Option Nat :=
  match packet[place + 1]? with
  | some length =>
    if length ≠ 0 ∧ place + 8 * length.toNat ≤ packet.length then some (8 * length.toNat) else none
  | none => none

theorem claimedSize?_eq_some_iff {packet : Bytes} {place size : Nat} :
    claimedSize? packet place = some size ↔ ∃ length, packet[place + 1]? = some length ∧
      length ≠ 0 ∧ size = 8 * length.toNat ∧ place + size ≤ packet.length := by
  unfold claimedSize?
  cases packet[place + 1]? with
  | none => simp
  | some length =>
    by_cases inside : length ≠ 0 ∧ place + 8 * length.toNat ≤ packet.length
    · simp only [if_pos inside, Option.some.injEq, exists_eq_left']
      constructor
      · rintro rfl
        exact ⟨inside.1, rfl, inside.2⟩
      · rintro ⟨-, same, -⟩
        exact same.symm
    · simp only [if_neg inside, Option.some.injEq, exists_eq_left', reduceCtorEq, false_iff]
      rintro ⟨nonzero, rfl, room⟩
      exact inside ⟨nonzero, room⟩

theorem claimedSize?_pos {packet : Bytes} {place size : Nat}
    (claimed : claimedSize? packet place = some size) : 0 < size := by
  obtain ⟨length, -, nonzero, rfl, -⟩ := claimedSize?_eq_some_iff.mp claimed
  have positive : length.toNat ≠ 0 := fun same => nonzero (UInt8.toNat_inj.mp same)
  omega

def claimedFrom (packet : Bytes) (place : Nat) : List Nat :=
  if packet.length < place + 2 then []
  else
    match _found : claimedSize? packet place with
    | some size => place :: claimedFrom packet (place + size)
    | none => [place]
termination_by packet.length - place
decreasing_by
  have := claimedSize?_pos ‹_›
  omega

def reportedFrom (packet : Bytes) (place : Nat) : List Nat :=
  (claimedFrom packet place).filter fun option =>
    packet[option]? = some 3 ∧ (claimedSize? packet option).isSome

/-- Whether the option at a place claims its own size if it is a Prefix Information Option. -/
def RegularAt (packet : Bytes) (place : Nat) : Prop :=
  packet[place]? = some 3 → packet[place + 1]? = some 4

instance (packet : Bytes) : DecidablePred (RegularAt packet) :=
  fun _ => inferInstanceAs (Decidable (_ → _))

section

variable {packet : Bytes} {place : Nat}

theorem sizeAt?_of_claimed {size : Nat} (regular : RegularAt packet place)
    (claimed : claimedSize? packet place = some size) :
    sizeAt? packet place = some size := by
  obtain ⟨length, lengthHere, nonzero, rfl, inside⟩ := claimedSize?_eq_some_iff.mp claimed
  obtain ⟨room, -⟩ := List.getElem?_eq_some_iff.mp lengthHere
  obtain ⟨kind, kindHere⟩ := exists_byte (by omega : place < packet.length)
  rw [sizeAt?_of_bytes kindHere lengthHere]
  by_cases three : kind = 3
  · subst three
    cases lengthHere.symm.trans (regular kindHere)
    exact (if_pos rfl).trans (if_pos inside)
  · rw [if_neg three, if_neg nonzero]

theorem prefixAt_of_claimed {size : Nat} (regular : RegularAt packet place)
    (claimed : claimedSize? packet place = some size) :
    PrefixAt packet place ↔ packet[place]? = some 3 := by
  refine ⟨And.left, fun three => ⟨three, ?_⟩⟩
  obtain ⟨length, lengthHere, -, rfl, inside⟩ := claimedSize?_eq_some_iff.mp claimed
  cases lengthHere.symm.trans (regular three)
  exact inside

/-- Where an option claims no size that is left, the search finds nothing from there on: it stops as
well, or it passes an option that is cut short, and is at the end of the packet. -/
theorem prefixesFrom_of_unclaimed (regular : RegularAt packet place)
    (room : place + 2 ≤ packet.length) (unclaimed : claimedSize? packet place = none) :
    prefixesFrom packet place = [] := by
  obtain ⟨kind, kindHere⟩ := exists_byte (by omega : place < packet.length)
  obtain ⟨length, lengthHere⟩ := exists_byte (by omega : place + 1 < packet.length)
  have step := sizeAt?_of_bytes kindHere lengthHere
  have beyond : length ≠ 0 → ¬place + 8 * length.toNat ≤ packet.length := by
    intro nonzero inside
    have claimed := claimedSize?_eq_some_iff.mpr ⟨length, lengthHere, nonzero, rfl, inside⟩
    cases unclaimed.symm.trans claimed
  by_cases three : kind = 3
  · subst three
    cases lengthHere.symm.trans (regular kindHere)
    have cut : ¬place + 32 ≤ packet.length := beyond (by decide)
    rw [if_pos rfl, if_neg cut] at step
    exact prefixesFrom_of_end step
  · by_cases zero : length = 0
    · rw [if_neg three, if_pos zero] at step
      exact prefixesFrom_of_end step
    · have passed : ¬PrefixAt packet place := by
        rintro ⟨here, -⟩
        exact three (Option.some.inj (kindHere.symm.trans here))
      have short := beyond zero
      rw [if_neg three, if_neg zero] at step
      rw [prefixesFrom_of_size step, if_neg passed]
      exact prefixesFrom_of_end (sizeAt?_of_short (by omega))

theorem prefixesFrom_eq_reportedFrom
    (regular : ∀ option ∈ claimedFrom packet place, RegularAt packet option) :
    prefixesFrom packet place = reportedFrom packet place := by
  unfold reportedFrom
  fun_induction claimedFrom packet place with
  | case1 place short => exact prefixesFrom_of_end (sizeAt?_of_short short)
  | case2 place room size claimed ih =>
    have here := regular place (by simp)
    have rest := ih fun option met => regular option (List.mem_cons_of_mem _ met)
    have stands := prefixAt_of_claimed here claimed
    rw [prefixesFrom_of_size (sizeAt?_of_claimed here claimed), List.filter_cons, rest]
    simp only [stands, claimed, Option.isSome_some, and_true, decide_eq_true_eq]
  | case3 place room unclaimed =>
    rw [prefixesFrom_of_unclaimed (regular place (by simp)) (by omega) unclaimed]
    simp [unclaimed]

end

/-- In a Router Advertisement whose Prefix Information Options all claim 32 bytes, the one at which
the walk of RFC 4861 may stop as well, that walk reports what the search finds. -/
theorem advertisedPrefixes_lengthDriven (packet : Bytes) (whole : 56 ≤ packet.length)
    (carries : packet[6]? = some 58) (advertises : packet[40]? = some 134)
    (regular : ∀ option ∈ claimedFrom packet 56, RegularAt packet option) :
    (reportedFrom packet 56).mapM (fun option : Nat => parse packet option) =
      Except.ok (advertisedPrefixes (some packet)) := by
  have known := (isRouterAdvertisement_iff packet).mpr ⟨whole, carries, advertises⟩
  have listed : advertisedPrefixes (some packet) =
      (prefixesFrom packet 56).map (prefixAt packet) := by
    rw [advertisedPrefixes_of_advertisement known]
    exact prefixOptions_drop packet 56
  rw [listed, ← prefixesFrom_eq_reportedFrom regular, mapM_eq_ok_iff, List.forall₂_map_right_iff,
    List.forall₂_same]
  intro option met
  obtain ⟨-, -, -, inside⟩ := mem_prefixesFrom met
  exact parse_eq_ok_iff.mpr ⟨inside, rfl⟩

def cutPacket : Bytes :=
  (noisyPacket 3).take 128 ++ [3, 4, 64]

theorem advertisedPrefixes_lengthDriven_cut :
    56 ≤ cutPacket.length ∧ cutPacket[6]? = some 58 ∧ cutPacket[40]? = some 134 ∧
      (∀ option ∈ claimedFrom cutPacket 56, RegularAt cutPacket option) ∧
      (reportedFrom cutPacket 56).mapM (fun option : Nat => parse cutPacket option) =
        Except.ok (advertisedPrefixes (some cutPacket)) := by
  have whole : 56 ≤ cutPacket.length := by decide +kernel
  have regular : ∀ option ∈ claimedFrom cutPacket 56, RegularAt cutPacket option := by
    decide +kernel
  exact ⟨whole, rfl, rfl, regular, advertisedPrefixes_lengthDriven cutPacket whole rfl rfl regular⟩

end ThreadLab.Packet
