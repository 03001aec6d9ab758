import ThreadLab.Proofs.Listing.Lines
import ThreadLab.Proofs.Text.Integer.Spelling

namespace ThreadLab.Listing.Addresses

def lineBreak : CodePoint := '\n'

/-- What two readings come to one after the other: the lists of both, or the fault of the first that
fails. -/
inductive InTurn : (first second both : Except Fault (List LinkAddress)) → Prop
  | read (first second : List LinkAddress) : InTurn (.ok first) (.ok second) (.ok (first ++ second))
  | firstFails (fault : Fault) (second : Except Fault (List LinkAddress)) :
    InTurn (.error fault) second (.error fault)
  | secondFails (first : List LinkAddress) (fault : Fault) :
    InTurn (.ok first) (.error fault) (.error fault)

def Spells (line : Text) (address : Ip.V6) (prefixLength : Int) : Prop :=
  ∃ spelling size, Places line spelling size ∧ Ip.V6.Spells spelling address ∧
    Text.Integer.Spells size prefixLength

def NamesAddress (line : Text) : Prop :=
  Text.ofString "inet6" <:+: line

instance : DecidablePred NamesAddress :=
  fun line => inferInstanceAs (Decidable (_ <:+: line))

def WellFormed (line : Text) : Prop :=
  ∃ address prefixLength, Spells line address prefixLength

/-- The line of an address that is read first of all that have a fault, with the fault of it. -/
inductive FirstFault (listing : Text) : Fault → Prop
  | intro {before after : List Text} {line : Text} {fault : Fault}
    (lines : Text.lines listing = before ++ line :: after)
    (wellFormed : ∀ other ∈ before, NamesAddress other → WellFormed other)
    (names : NamesAddress line) (faulty : LineFault line fault) : FirstFault listing fault

theorem tells_iff {line : Text} {address : Ip.V6} {prefixLength : Int} :
    Tells line address prefixLength ↔ Spells line address prefixLength := by
  simp only [Tells, Spells, readSize, mapError_eq_ok_iff, Text.Integer.read_eq_ok_iff]

theorem readable_iff {line : Text} : Readable line ↔ WellFormed line := by
  simp only [Readable, WellFormed, tells_iff]

theorem isAddressLine_iff {line : Text} : isAddressLine line = true ↔ NamesAddress line :=
  Text.occursIn_iff

theorem addressLines_eq_filter (listing : Text) :
    addressLines listing = (Text.lines listing).filter NamesAddress := by
  apply List.filter_congr
  intro line _
  rw [Bool.eq_iff_iff, decide_eq_true_iff, isAddressLine_iff]

theorem firstFault_iff {time : Int} {listing : Text} {fault : Fault} :
    read time listing = .error fault ↔ FirstFault listing fault := by
  rw [read_eq_error_iff]
  simp only [readable_iff, addressLines]
  constructor
  · rintro ⟨before, line, after, split, wellFormed, faulty⟩
    obtain ⟨start, rest, lines, rfl, kept⟩ := List.filter_eq_append_iff.mp split
    obtain ⟨passed, remaining, rfl, others, names, -⟩ := List.filter_eq_cons_iff.mp kept
    rw [← List.append_assoc] at lines
    refine .intro lines ?_ (isAddressLine_iff.mp names) faulty
    intro other member named
    have kept := isAddressLine_iff.mpr named
    rcases List.mem_append.mp member with early | late
    · exact wellFormed other (List.mem_filter.mpr ⟨early, kept⟩)
    · exact absurd kept (others other late)
  · rintro ⟨lines, wellFormed, names, faulty⟩
    rename_i before after line
    refine ⟨before.filter isAddressLine, line, after.filter isAddressLine, ?_, ?_, faulty⟩
    · rw [lines, List.filter_append, List.filter_cons_of_pos (isAddressLine_iff.mpr names)]
    · intro other member
      obtain ⟨inside, named⟩ := List.mem_filter.mp member
      exact wellFormed other inside (isAddressLine_iff.mp named)

theorem read_append (time : Int) (first second : Text) :
    read time (first ++ lineBreak :: second) = (do
      let links ← read time first
      let others ← read time second
      return links ++ others) := by
  have lines : Text.lines (first ++ lineBreak :: second) = Text.lines first ++ Text.lines second :=
    Text.splitAt_append_cons lineBreak first second
  rw [read, lines, List.filter_append, List.mapM_append]
  rfl

theorem inTurn_read (time : Int) (first second : Text) :
    InTurn (read time first) (read time second) (read time (first ++ lineBreak :: second)) := by
  rw [read_append]
  cases read time first with
  | error fault => exact .firstFails fault _
  | ok links =>
    cases read time second with
    | error fault => exact .secondFails links fault
    | ok others => exact .read links others

theorem fst_linkAddresses {lab : Lab} {listing : Text} (printed : lab.printed = .ok listing)
    (device : Nat) (interface : Text) :
    (Session.linkAddresses device interface lab).1 = read lab.millis listing := by
  obtain ⟨after, ran, -⟩ := linkAddresses_eq device interface lab
  rw [ran, printed]
  rfl

/-- The addresses of two listings that are printed as one are those of the first and then those of
the second, or the fault of the first listing that has one. A listing is read exactly where every
line of an address is well-formed, and gives one address for each; otherwise its fault is that of
the first line that is not. -/
theorem linkAddresses_byLine (device : Nat) (interface : Text) :
    (∀ (lab first second : Lab) (left right : Text), lab.printed = .ok (left ++ lineBreak :: right) →
      first.printed = .ok left → second.printed = .ok right →
      first.millis = lab.millis → second.millis = lab.millis →
      InTurn (Session.linkAddresses device interface first).1
        (Session.linkAddresses device interface second).1
        (Session.linkAddresses device interface lab).1) ∧
    ∀ (lab : Lab) (listing : Text), lab.printed = .ok listing →
      ((∃ links, (Session.linkAddresses device interface lab).1 = .ok links) ↔
        ∀ line ∈ Text.lines listing, NamesAddress line → WellFormed line) ∧
      (∀ links, (Session.linkAddresses device interface lab).1 = .ok links →
        List.Forall₂ (fun line link => ∃ address prefixLength, Spells line address prefixLength ∧
          link = reported lab.millis line address prefixLength)
          ((Text.lines listing).filter NamesAddress) links) ∧
      ∀ fault, (Session.linkAddresses device interface lab).1 = .error fault ↔
        FirstFault listing fault := by
  constructor
  · intro lab first second left right whole printed printed' same same'
    rw [fst_linkAddresses whole, fst_linkAddresses printed, fst_linkAddresses printed', same, same']
    exact inTurn_read lab.millis left right
  · intro lab listing printed
    rw [fst_linkAddresses printed]
    refine ⟨?_, ?_, fun fault => firstFault_iff⟩
    · rw [read_isOk_iff]
      simp only [readable_iff, Lists, and_imp]
      rfl
    · intro links found
      rw [read_eq_ok_iff, addressLines_eq_filter] at found
      simpa only [tells_iff] using found

def loopback : List Char :=
  "inet6 0::1/+1_28\nlink".toList

def unsized : List Char :=
  "inet6 fe80::1/6_\ninet6".toList

def replying (row : List Char) : Lab :=
  { Lab.ofSerials ["S1"] [] 0 with script := { shell := [.ok (Text.Utf8.encodeChars row)] } }

theorem printed_replying {row : List Char} (ascii : (row.all fun c => c.toNat < 0x80) = true) :
    (replying row).printed = .ok (Text.ofChars row) :=
  Lab.printed_of_text rfl (Text.Utf8.decode_of_ascii ascii)

theorem linkAddresses_byLine_unsized :
    (replying (loopback ++ '\n' :: unsized)).printed =
        .ok (Text.ofChars loopback ++ lineBreak :: Text.ofChars unsized) ∧
      (replying loopback).printed = .ok (Text.ofChars loopback) ∧
      (replying unsized).printed = .ok (Text.ofChars unsized) ∧
      (∀ line ∈ Text.lines (Text.ofChars loopback), NamesAddress line → WellFormed line) ∧
      (Session.linkAddresses 0 "wpan0" (replying (loopback ++ '\n' :: unsized))).1 =
        .error (.integer (.malformed "6_")) ∧
      FirstFault (Text.ofChars loopback ++ lineBreak :: Text.ofChars unsized)
        (.integer (.malformed "6_")) := by
  have first : (replying loopback).printed = .ok (Text.ofChars loopback) :=
    printed_replying (by decide +kernel)
  have second : (replying unsized).printed = .ok (Text.ofChars unsized) :=
    printed_replying (by decide +kernel)
  have both : (replying (loopback ++ '\n' :: unsized)).printed =
      .ok (Text.ofChars loopback ++ lineBreak :: Text.ofChars unsized) :=
    printed_replying (by decide +kernel)
  have found : read (replying loopback).millis (Text.ofChars loopback) =
    .ok [{ address := Ip.V6.ofNumber 1, prefixLength := .integer 128 }] := rfl
  have failed : read (replying unsized).millis (Text.ofChars unsized) =
    .error (.integer (.malformed "6_")) := rfl
  rw [← fst_linkAddresses first 0 "wpan0"] at found
  rw [← fst_linkAddresses second 0 "wpan0"] at failed
  obtain ⟨inTurn, alone⟩ := linkAddresses_byLine 0 "wpan0"
  have turn := inTurn _ _ _ _ _ both first second rfl rfl
  rw [found, failed] at turn
  have ended : (Session.linkAddresses 0 "wpan0" (replying (loopback ++ '\n' :: unsized))).1 =
      .error (.integer (.malformed "6_")) := by
    generalize (Session.linkAddresses _ _ (replying (loopback ++ '\n' :: unsized))).1 = outcome
      at turn ⊢
    cases turn
    rfl
  have wellFormed := (alone _ _ first).1.mp ⟨_, found⟩
  exact ⟨both, first, second, wellFormed, ended, ((alone _ _ both).2.2 _).mp ended⟩

end ThreadLab.Listing.Addresses
