import ThreadLab.Proofs.Listing.Lines
import ThreadLab.Proofs.Trial.Join

namespace ThreadLab.Trial.Lifecycle

open Listing.Addresses

def IsLinkLocal (address : Ip.V6) : Prop :=
  0xfe80 <<< 112 ≤ address.value ∧ address.value < 0xfec0 <<< 112

def IsRead (listing : Text) : Prop :=
  ∀ line, Lists listing line → Readable line

def HasLinkLocal (listing : Text) : Prop :=
  ∃ line address prefixLength, Lists listing line ∧ Tells line address prefixLength ∧
    IsLinkLocal address

/-- An address beyond its link, in a line that does not call it deprecated. -/
def HasMeshLocal (listing : Text) : Prop :=
  ∃ line address prefixLength, Lists listing line ∧ Tells line address prefixLength ∧
    ¬IsLinkLocal address ∧ ¬mark <:+: line

def Prints (lab : Lab) (listing : Text) : Prop :=
  ∃ bytes, lab.shellReply = .ok bytes ∧ Text.Utf8.decode bytes = .ok listing

/-- What the trial ends in: each way to end rules out that an earlier step fails. -/
inductive Verdict (setup : Setup) (lab : Lab) : Except Fault Unit → Prop
  | unjoined {fault : Fault} (faulty : JoinFault setup lab fault) : Verdict setup lab (.error fault)
  | unanswered {fault : Fault} (joins : Joins setup lab) (reply : lab.shellReply = .error fault) :
    Verdict setup lab (.error fault)
  | garbled {bytes : Bytes} {offset : Nat} (joins : Joins setup lab)
    (reply : lab.shellReply = .ok bytes) (noText : Text.Utf8.decode bytes = .error offset) :
    Verdict setup lab (.error (.noText offset))
  | unread {listing line : Text} {before after : List Text} {fault : Fault}
    (joins : Joins setup lab) (prints : Prints lab listing)
    (split : addressLines listing = before ++ line :: after)
    (readable : ∀ other ∈ before, Readable other) (faulty : LineFault line fault) :
    Verdict setup lab (.error fault)
  | unassigned {listing : Text} (joins : Joins setup lab) (prints : Prints lab listing)
    (read : IsRead listing) (lacking : ¬(HasLinkLocal listing ∧ HasMeshLocal listing)) :
    Verdict setup lab (.error .checkFailed)
  | passed {listing : Text} (joins : Joins setup lab) (prints : Prints lab listing)
    (read : IsRead listing) (linkLocal : HasLinkLocal listing) (meshLocal : HasMeshLocal listing) :
    Verdict setup lab (.ok ())

theorem isLinkLocal_iff {address : Ip.V6} : address.isLinkLocal = true ↔ IsLinkLocal address := by
  -- the first ten bits are what is left of the address without its last 118
  have quotient : address.isLinkLocal = true ↔
      address.value / 2 ^ 118 * 2 ^ 118 = 0x3fa * 2 ^ 118 := by
    rw [← Nat.shiftLeft_eq, ← Nat.shiftRight_eq_div_pow]
    exact beq_iff_eq
  rw [quotient, IsLinkLocal, Nat.shiftLeft_eq, Nat.shiftLeft_eq]
  omega

theorem isDeprecated_reported {time : Int} (ends : time ≠ Settings.permanent) (line : Text)
    (address : Ip.V6) (prefixLength : Int) :
    (reported time line address prefixLength).isDeprecated = true ↔ mark <:+: line := by
  have dated : deprecationTime time line =
      if mark <:+: line then time else Settings.permanent :=
    if_congr Text.occursIn_iff rfl rfl
  rw [LinkAddress.isDeprecated, reported, Json.same_integer, dated]
  by_cases deprecated : mark <:+: line
  · simp [deprecated, ends]
  · simp [deprecated]

theorem isMeshLocal_reported {time : Int} (ends : time ≠ Settings.permanent) (line : Text)
    (address : Ip.V6) (prefixLength : Int) :
    isMeshLocal (reported time line address prefixLength) = true ↔
      ¬IsLinkLocal address ∧ ¬mark <:+: line := by
  rw [← isLinkLocal_iff, ← isDeprecated_reported ends line address prefixLength]
  simp [isMeshLocal, reported]

theorem reported_address (time : Int) (line : Text) (address : Ip.V6) (prefixLength : Int) :
    (reported time line address prefixLength).address = address :=
  rfl

theorem any_of_read {time : Int} {listing : Text} {links : List LinkAddress}
    (all : read time listing = .ok links) (holds : LinkAddress → Bool) :
    links.any holds = true ↔ ∃ line address prefixLength, Lists listing line ∧
      Tells line address prefixLength ∧ holds (reported time line address prefixLength) = true := by
  rw [List.any_eq_true, exists_mem_of_mapM all fun link => holds link = true]
  change (∃ line ∈ addressLines listing, _) ↔ _
  simp only [readLine_eq_ok_iff, mem_addressLines]
  constructor
  · rintro ⟨line, lists, _, ⟨address, prefixLength, tells, rfl⟩, held⟩
    exact ⟨line, address, prefixLength, lists, tells, held⟩
  · rintro ⟨line, address, prefixLength, lists, tells, held⟩
    exact ⟨line, lists, _, ⟨address, prefixLength, tells, rfl⟩, held⟩

section

variable {setup : Setup} {lab : Lab}

def listed (lab : Lab) : Except Fault (List LinkAddress) := do
  let listing ← lab.printed
  read lab.millis listing

def judge (links : List LinkAddress) : Except Fault Unit :=
  if links.any (·.address.isLinkLocal) ∧ links.any isMeshLocal then .ok () else .error .checkFailed

theorem checks_eq (links : List LinkAddress) (lab : Lab) :
    (do
      Act.check (links.any (·.address.isLinkLocal))
      Act.check (links.any isMeshLocal) : Act Unit) lab = (judge links, lab) := by
  unfold judge
  cases links.any (·.address.isLinkLocal) <;> cases links.any isMeshLocal <;> rfl

def listCall (setup : Setup) (lab : Lab) : Call :=
  .shell (lab.device setup.device).serial (Session.addressesCommand setup.interface)

theorem trial_of_fault {fault : Fault} (faulty : JoinFault setup lab fault) :
    ∃ after, WithoutShell lab after ∧ hasMeshLocalAddress setup lab = (.error fault, after) := by
  obtain ⟨after, spared, ran⟩ := join_of_fault faulty
  exact ⟨after, spared, Act.bind_of_error ran⟩

theorem trial_of_joins (joins : Joins setup lab) :
    ∃ made after, after.calls = lab.calls ++ made ∧ shellCalls made = [listCall setup lab] ∧
      hasMeshLocalAddress setup lab = (listed lab >>= judge, after) := by
  obtain ⟨role, joined, watched, ran⟩ := join_of_joins joins
  obtain ⟨after, reported, calls⟩ := linkAddresses_eq setup.device setup.interface joined
  change _ = (listed joined, after) at reported
  have device : joined.device setup.device = lab.device setup.device := by
    rw [Lab.device, Lab.device, watched.devices]
  have same : listed joined = listed lab := by
    rw [listed, listed, Lab.printed, Lab.printed, Lab.shellReply, Lab.shellReply, watched.shell,
      watched.millis]
  rw [watched.calls, List.append_assoc, device] at calls
  rw [same] at reported
  refine ⟨_, after, calls, rfl, ?_⟩
  unfold hasMeshLocalAddress
  rw [Act.bind_of_ok ran]
  exact Act.bind_of_still reported fun links => checks_eq links after

theorem listed_of_prints {listing : Text} (prints : Prints lab listing) :
    listed lab = read lab.millis listing := by
  obtain ⟨bytes, reply, decoded⟩ := prints
  rw [listed, Lab.printed_of_reply reply, decoded]
  rfl

theorem any_and_any_of_read {listing : Text} {links : List LinkAddress}
    (ends : lab.millis ≠ Settings.permanent) (all : read lab.millis listing = .ok links) :
    links.any (·.address.isLinkLocal) = true ∧ links.any isMeshLocal = true ↔
      HasLinkLocal listing ∧ HasMeshLocal listing := by
  rw [any_of_read all, any_of_read all]
  simp only [reported_address, isLinkLocal_iff, isMeshLocal_reported ends]
  rfl

theorem fst_trial (joins : Joins setup lab) :
    (hasMeshLocalAddress setup lab).1 = listed lab >>= judge := by
  obtain ⟨made, after, -, -, ran⟩ := trial_of_joins joins
  rw [ran]

theorem fst_trial_of_read {listing : Text} {links : List LinkAddress} (joins : Joins setup lab)
    (prints : Prints lab listing) (all : read lab.millis listing = .ok links) :
    (hasMeshLocalAddress setup lab).1 = judge links := by
  rw [fst_trial joins, listed_of_prints prints, all]
  rfl

theorem Verdict.sound {outcome : Except Fault Unit} (ends : lab.millis ≠ Settings.permanent)
    (verdict : Verdict setup lab outcome) : (hasMeshLocalAddress setup lab).1 = outcome := by
  cases verdict with
  | unjoined faulty =>
    obtain ⟨after, -, ran⟩ := trial_of_fault faulty
    rw [ran]
  | unanswered joins reply =>
    rw [fst_trial joins, listed, Lab.printed, reply]
    rfl
  | garbled joins reply noText =>
    rw [fst_trial joins, listed, Lab.printed_of_reply reply, noText]
    rfl
  | unread joins prints split readable faulty =>
    have failed := (@read_eq_error_iff lab.millis _ _).mpr ⟨_, _, _, split, readable, faulty⟩
    rw [fst_trial joins, listed_of_prints prints, failed]
    rfl
  | unassigned joins prints all lacking =>
    obtain ⟨links, found⟩ := (@read_isOk_iff lab.millis _).mpr all
    rw [fst_trial_of_read joins prints found]
    exact if_neg (mt (any_and_any_of_read ends found).mp lacking)
  | passed joins prints all linkLocal meshLocal =>
    obtain ⟨links, found⟩ := (@read_isOk_iff lab.millis _).mpr all
    rw [fst_trial_of_read joins prints found]
    exact if_pos ((any_and_any_of_read ends found).mpr ⟨linkLocal, meshLocal⟩)

theorem exists_verdict (setup : Setup) (lab : Lab) : ∃ outcome, Verdict setup lab outcome := by
  rcases joins_or_fault setup lab with joins | ⟨fault, faulty⟩
  · cases reply : lab.shellReply with
    | error fault => exact ⟨_, .unanswered joins reply⟩
    | ok bytes =>
      cases decoded : Text.Utf8.decode bytes with
      | error offset => exact ⟨_, .garbled joins reply decoded⟩
      | ok listing =>
        have prints : Prints lab listing := ⟨bytes, reply, decoded⟩
        cases found : read lab.millis listing with
        | error fault =>
          obtain ⟨before, line, after, split, readable, faulty⟩ := read_eq_error_iff.mp found
          exact ⟨_, .unread joins prints split readable faulty⟩
        | ok links =>
          have all : IsRead listing := read_isOk_iff.mp ⟨links, found⟩
          by_cases both : HasLinkLocal listing ∧ HasMeshLocal listing
          · exact ⟨_, .passed joins prints all both.1 both.2⟩
          · exact ⟨_, .unassigned joins prints all both⟩
  · exact ⟨_, .unjoined faulty⟩

theorem verdict_iff (ends : lab.millis ≠ Settings.permanent) (outcome : Except Fault Unit) :
    (hasMeshLocalAddress setup lab).1 = outcome ↔ Verdict setup lab outcome := by
  constructor
  · rintro rfl
    obtain ⟨outcome, verdict⟩ := exists_verdict setup lab
    rwa [verdict.sound ends]
  · exact Verdict.sound ends

theorem passed_iff :
    Verdict setup lab (.ok ()) ↔ Joins setup lab ∧ ∃ listing, Prints lab listing ∧ IsRead listing ∧
      HasLinkLocal listing ∧ HasMeshLocal listing := by
  constructor
  · intro verdict
    cases verdict with
    | passed joins prints all linkLocal meshLocal =>
      exact ⟨joins, _, prints, all, linkLocal, meshLocal⟩
  · rintro ⟨joins, listing, prints, all, linkLocal, meshLocal⟩
    exact .passed joins prints all linkLocal meshLocal

/-- The shell is asked once, and only of a device that has joined. -/
def AsksOnce (setup : Setup) (lab after : Lab) : Prop :=
  ∃ made, after.calls = lab.calls ++ made ∧
    (Joins setup lab → shellCalls made = [listCall setup lab]) ∧
    (¬Joins setup lab → shellCalls made = [])

theorem asksOnce (setup : Setup) (lab : Lab) :
    AsksOnce setup lab (hasMeshLocalAddress setup lab).2 := by
  rcases joins_or_fault setup lab with joins | ⟨fault, faulty⟩
  · obtain ⟨made, after, calls, once, ran⟩ := trial_of_joins joins
    rw [ran]
    exact ⟨made, calls, fun _ => once, fun unjoined => absurd joins unjoined⟩
  · obtain ⟨after, ⟨made, calls, none⟩, ran⟩ := trial_of_fault faulty
    rw [ran]
    refine ⟨made, calls, fun joins => ?_, fun _ => none⟩
    exact absurd joins faulty.not_joins

end

/-- The trial passes exactly where the device joins, the shell answers with a listing whose lines
are all read, an address of the link is listed, and so is one beyond it that is not deprecated. Its
outcome is otherwise that of the first step that fails. -/
theorem hasMeshLocalAddress_verdict (setup : Setup) {lab : Lab}
    (ends : lab.millis ≠ Settings.permanent) :
    (∀ outcome, (hasMeshLocalAddress setup lab).1 = outcome ↔ Verdict setup lab outcome) ∧
      ((hasMeshLocalAddress setup lab).1 = .ok () ↔
        Joins setup lab ∧ ∃ listing, Prints lab listing ∧ IsRead listing ∧ HasLinkLocal listing ∧
          HasMeshLocal listing) ∧
      AsksOnce setup lab (hasMeshLocalAddress setup lab).2 := by
  refine ⟨verdict_iff ends, ?_, asksOnce setup lab⟩
  rw [verdict_iff ends]
  exact passed_iff

def roleEvent (number : Int) : Event :=
  ⟨"onDeviceRoleChanged", .object [("deviceRole", .integer number)]⟩

def leading : Lab where
  devices := [{ serial := "S1", tag := "S1" }]
  now := 1234567
  script :=
    { shell := [.ok (Text.Utf8.encodeChars Listing.Addresses.printed)]
      outlooks := [{ events := [roleEvent 1, ⟨"onPartitionIdChanged", .null⟩, roleEvent 4] }] }

def withholding : Lab :=
  { leading with script := { requestFaults := [(unwatchRequest, "gone")] } }

theorem joins_leading : Joins ⟨0, "wpan0"⟩ leading where
  asked := rfl
  watched := rfl
  returned := rfl
  reaches := by
    refine ⟨rfl, [roleEvent 1], roleEvent 4, [], rfl, fun other member => ?_, ?_⟩
    · rw [List.mem_singleton.mp member]
      exact reportsRole_eq_false_iff.mp rfl
    · exact ⟨.integer 4, .leader, rfl, .inr (.inr rfl), rfl⟩

theorem lists_twoAddresses_iff {line : Text} :
    Lists (listing twoAddresses) line ↔ ∃ entry ∈ [linkLocal, meshLocal], entry.text = line :=
  lists_listing_iff (List.cons_ne_nil _ _)

theorem isRead_twoAddresses : IsRead (listing twoAddresses) := by
  intro line lists
  obtain ⟨entry, -, rfl⟩ := lists_twoAddresses_iff.mp lists
  exact ⟨_, _, entry.tells⟩

theorem hasLinkLocal_twoAddresses : HasLinkLocal (listing twoAddresses) := by
  have lists := lists_twoAddresses_iff.mpr ⟨linkLocal, List.mem_cons_self, rfl⟩
  exact ⟨_, _, _, lists, linkLocal.tells, by decide, by decide⟩

theorem hasMeshLocal_twoAddresses : HasMeshLocal (listing twoAddresses) := by
  have lists := lists_twoAddresses_iff.mpr
    ⟨meshLocal, List.mem_cons_of_mem _ List.mem_cons_self, rfl⟩
  have current : ¬mark <:+: meshLocal.text := by
    rw [← Text.occursIn_iff, meshLocal.occursIn_mark]
    decide
  exact ⟨_, _, _, lists, meshLocal.tells, fun inside => absurd inside.1 (by decide), current⟩

theorem hasMeshLocalAddress_verdict_leading :
    leading.millis ≠ Settings.permanent ∧
      (hasMeshLocalAddress ⟨0, "wpan0"⟩ leading).1 = .ok () ∧
      AsksOnce ⟨0, "wpan0"⟩ leading (hasMeshLocalAddress ⟨0, "wpan0"⟩ leading).2 ∧
      (hasMeshLocalAddress ⟨0, "wpan0"⟩ withholding).1 =
        .error (.snippet .request "<AndroidDevice|S1>" "gone") := by
  have ends : leading.millis ≠ Settings.permanent := Clock.millis_ne_permanent rfl (by decide)
  have ends' : withholding.millis ≠ Settings.permanent := ends
  obtain ⟨-, passes, asks⟩ := hasMeshLocalAddress_verdict ⟨0, "wpan0"⟩ ends
  obtain ⟨verdict, -⟩ := hasMeshLocalAddress_verdict ⟨0, "wpan0"⟩ ends'
  refine ⟨ends, passes.mpr ?_, asks, (verdict _).mpr (.unjoined (.unreturned rfl rfl rfl))⟩
  exact ⟨joins_leading, _, ⟨_, rfl, decode_printed⟩, isRead_twoAddresses,
    hasLinkLocal_twoAddresses, hasMeshLocal_twoAddresses⟩

end ThreadLab.Trial.Lifecycle
