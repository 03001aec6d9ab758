import ThreadLab.Packet.Icmpv6Header
import ThreadLab.Packet.Ipv6Header
import ThreadLab.Packet.PrefixInformation
import ThreadLab.Packet.RouterHeader
import ThreadLab.Vocabulary.Icmpv6Type

namespace ThreadLab.Packet

def icmpv6Protocol : Int := 58

def isPrefixInformation (kind : UInt8) : Bool :=
  (kind.toNat : Int) == NdOptionType.prefixInformation.number

def prefixInformationSize : Nat := Header.size PrefixInformation

/-- The size of the option that begins `rest`, unless the walk ends there. -/
def optionSize? (rest : Bytes) : Option Nat :=
  match rest with
  | kind :: length :: _ =>
    if isPrefixInformation kind then
      if prefixInformationSize ≤ rest.length then some prefixInformationSize else none
    else if length = 0 then none
    else some (8 * length.toNat)
  | _ => none

theorem optionSize?_pos {rest : Bytes} {size : Nat} (found : optionSize? rest = some size) :
    0 < size ∧ rest ≠ [] := by
  match rest with
  | [] | [_] => simp [optionSize?] at found
  | kind :: length :: body =>
    refine ⟨?_, by simp⟩
    simp only [optionSize?] at found
    split at found
    · split at found
      · cases found; decide
      · cases found
    · split at found
      · cases found
      · rename_i nonzero
        have positive : length.toNat ≠ 0 := fun same => nonzero (UInt8.toNat_inj.mp same)
        cases found
        omega

/-- What is left of the message at each option header that the walk meets. -/
def walk (rest : Bytes) : List Bytes :=
  if rest.length < 2 then []
  else
    match _found : optionSize? rest with
    | some size => rest :: walk (rest.drop size)
    | none => [rest]
termination_by rest.length
decreasing_by
  have facts := optionSize?_pos ‹_›
  have : 0 < rest.length := List.length_pos_iff.mpr facts.2
  rw [List.length_drop]
  omega

def prefixInformation? (rest : Bytes) : Option PrefixInformation :=
  match rest with
  | kind :: _ => if isPrefixInformation kind then (Header.parse rest 0).toOption else none
  | [] => none

def prefixOptions (options : Bytes) : List PrefixInformation :=
  (walk options).filterMap prefixInformation?

def icmpv6Offset : Nat := Header.size Ipv6Header

def routerOffset : Nat := icmpv6Offset + Header.size Icmpv6Header

def optionsOffset : Nat := routerOffset + Header.size RouterHeader

def isRouterAdvertisement (packet : Bytes) : Except Truncated Bool := do
  let header : Ipv6Header ← Header.parse packet 0
  if header.nextHeader ≠ icmpv6Protocol then return false
  let message : Icmpv6Header ← Header.parse packet icmpv6Offset
  if message.kind ≠ Icmpv6Type.routerAdvertisement.number then return false
  let _ : RouterHeader ← Header.parse packet routerOffset
  return true

/-- The Prefix Information Options of a packet, in order. A packet that is missing, cut short or
no Router Advertisement has none. -/
def advertisedPrefixes (packet : Option Bytes) : List PrefixInformation :=
  match packet with
  | none => []
  | some bytes =>
    match isRouterAdvertisement bytes with
    | .ok true => prefixOptions (bytes.drop optionsOffset)
    | _ => []

end ThreadLab.Packet
