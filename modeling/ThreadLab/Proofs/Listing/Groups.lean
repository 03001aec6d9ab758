import ThreadLab.Proofs.Ip.Form
import ThreadLab.Proofs.Session.Act
import ThreadLab.Proofs.Text.Integer
import ThreadLab.Proofs.Text.Search
import ThreadLab.Proofs.Text.Utf8

namespace ThreadLab.Listing.Groups

structure Entry where
  group : Ip.V6
  scopeless : group.scope = none
  users : Option Nat

def Entry.text (entry : Entry) : Text :=
  "\tinet6 " ++ entry.group.text ++
    (match entry.users with
      | none => []
      | some users => " users " ++ toString users)

/-- A listing of the groups of one interface. -/
structure Report where
  index : Nat
  interface : Text
  noColon : (':' : CodePoint) ∉ interface
  entries : List Entry
  ended : Bool

namespace Report

variable (report : Report)

def header : Text :=
  toString report.index ++ ":\t" ++ report.interface

def rows : List Text :=
  report.header :: report.entries.map Entry.text ++ if report.ended then [[]] else []

def text : Text :=
  Text.join '\n' report.rows

end Report

variable {address : Ip.V6}

theorem not_infix_of_count {text : Text} (scopeless : address.scope = none)
    (few : text.count (CodePoint.ofChar ':') ≤ 1) : ¬address.text <:+: text := by
  intro stands
  have many := (Ip.V6.spells_text_of_scopeless scopeless).two_le_count_colon
  have most := stands.sublist.count_le (CodePoint.ofChar ':')
  omega

theorem not_infix_of_no_colon {text : Text} (scopeless : address.scope = none)
    (none : (':' : CodePoint) ∉ text) : ¬address.text <:+: text := by
  apply not_infix_of_count scopeless
  rw [List.count_eq_zero_of_not_mem none]
  decide

theorem not_infix_header (scopeless : address.scope = none) (report : Report) :
    ¬address.text <:+: report.header := by
  have noTab : ('\t' : CodePoint) ∉ address.text :=
    (Ip.V6.spells_text_of_scopeless scopeless).not_mem (by decide) (by decide) (by decide)
  have pieces : report.header =
      (toString report.index ++ ":") ++ (CodePoint.ofChar '\t') :: report.interface := by
    unfold Report.header
    rw [List.append_assoc, List.append_assoc]
    rfl
  rw [pieces, Text.infix_cut_iff noTab]
  rintro (left | right)
  · -- The index ends in a single colon, and an address has two at least.
    refine not_infix_of_count scopeless ?_ left
    rw [List.count_append, List.count_eq_zero_of_not_mem (Text.not_mem_toString (by decide) _)]
    decide
  · exact not_infix_of_no_colon scopeless report.noColon right

theorem infix_users_iff (scopeless : address.scope = none) (text : Text) (users : Nat) :
    address.text <:+: text ++ (Text.ofString " users " ++ Text.ofString (toString users)) ↔
      address.text <:+: text := by
  have noSpace : (' ' : CodePoint) ∉ address.text :=
    (Ip.V6.spells_text_of_scopeless scopeless).not_mem (by decide) (by decide) (by decide)
  have word : ¬address.text <:+: Text.ofString "users" :=
    not_infix_of_no_colon scopeless (by decide)
  have number : ¬address.text <:+: Text.ofString (toString users) :=
    not_infix_of_no_colon scopeless (Text.not_mem_toString (by decide) users)
  have pieces : Text.ofString " users " =
      CodePoint.ofChar ' ' :: (Text.ofString "users" ++ [CodePoint.ofChar ' ']) := by decide
  rw [pieces, List.cons_append, List.append_assoc, List.singleton_append,
    Text.infix_cut_iff noSpace, Text.infix_cut_iff noSpace]
  simp only [word, number, or_false]

theorem infix_entry_iff (scopeless : address.scope = none) (entry : Entry) :
    address.text <:+: entry.text ↔ address.text <:+: entry.group.text := by
  have noSpace : (' ' : CodePoint) ∉ address.text :=
    (Ip.V6.spells_text_of_scopeless scopeless).not_mem (by decide) (by decide) (by decide)
  have family : ¬address.text <:+: Text.ofString "\tinet6" :=
    not_infix_of_no_colon scopeless (by decide)
  have pieces : Text.ofString "\tinet6 " = Text.ofString "\tinet6" ++ [CodePoint.ofChar ' '] := by
    decide
  unfold Entry.text
  rw [pieces, List.append_assoc, List.append_assoc, List.singleton_append,
    Text.infix_cut_iff noSpace]
  simp only [family, false_or]
  cases entry.users with
  | none => rw [List.append_nil]
  | some users => exact infix_users_iff scopeless entry.group.text users

theorem names_text_iff (scopeless : address.scope = none) (report : Report) :
    names report.text address = true ↔
      ∃ entry ∈ report.entries, address.text <:+: entry.group.text := by
  have noBreak : ('\n' : CodePoint) ∉ address.text :=
    (Ip.V6.spells_text_of_scopeless scopeless).not_mem (by decide) (by decide) (by decide)
  have header := not_infix_header scopeless report
  have last : ¬address.text <:+: [] := not_infix_of_no_colon scopeless List.not_mem_nil
  have some : report.rows ≠ [] := List.cons_ne_nil _ _
  have searched := Text.any_occursIn_iff noBreak report.text
  rw [Report.text, Text.infix_join_iff noBreak some, ← Report.text] at searched
  refine searched.trans ?_
  constructor
  · rintro ⟨row, member, stands⟩
    rcases List.mem_append.mp member with inside | final
    · rcases List.mem_cons.mp inside with rfl | listed
      · exact absurd stands header
      · obtain ⟨entry, among, rfl⟩ := List.mem_map.mp listed
        exact ⟨entry, among, (infix_entry_iff scopeless entry).mp stands⟩
    · have empty : row = [] := by
        split at final
        · exact List.mem_singleton.mp final
        · exact absurd final List.not_mem_nil
      rw [empty] at stands
      exact absurd stands last
  · rintro ⟨entry, member, stands⟩
    refine ⟨entry.text, ?_, (infix_entry_iff scopeless entry).mpr stands⟩
    exact List.mem_cons_of_mem _ (List.mem_append_left _ (List.mem_map_of_mem member))

variable {reference : Ip.Reference} {lab : Lab} {bytes : Bytes}

theorem isInGroup_of_reply (means : reference.Means address) (device : Nat) (interface : Text)
    (reply : lab.script.shell.head? = some (.ok bytes)) {listing : Text}
    (decoded : Text.Utf8.decode bytes = .ok listing) :
    (Session.isInGroup device interface reference lab).1 = .ok (names listing address) := by
  obtain ⟨after, read, -⟩ :=
    Act.shellText_of_reply device (Session.groupsCommand interface) reply decoded
  unfold Session.isInGroup
  rw [Act.bind_of_ok read, Ip.Reference.ofJson_of_means means]
  rfl

/-- A group is found exactly where its text stands within the text of a listed group, and so
wherever it is listed. -/
theorem isInGroup_listed (means : reference.Means address) (scopeless : address.scope = none)
    (report : Report) (device : Nat) (interface : Text)
    (reply : lab.script.shell.head? = some (.ok bytes))
    (decoded : Text.Utf8.decode bytes = .ok report.text) :
    ∃ found, (Session.isInGroup device interface reference lab).1 = .ok found ∧
      (found = true ↔ ∃ entry ∈ report.entries, address.text <:+: entry.group.text) ∧
      (address ∈ report.entries.map Entry.group → found = true) := by
  have named := names_text_iff scopeless report
  refine ⟨names report.text address, isInGroup_of_reply means device interface reply decoded,
    named, fun listed => ?_⟩
  obtain ⟨entry, member, same⟩ := List.mem_map.mp listed
  rw [named, ← same]
  exact ⟨entry, member, List.infix_rfl⟩

def allNodes : Ip.V6 :=
  ⟨0xff02 <<< 112 + 1, none, by decide⟩

def solicitedNode : Ip.V6 :=
  ⟨0xff02 <<< 112 + 0x1ff000001, none, by decide⟩

def solicited : Report where
  index := 25
  interface := "thread-wpan"
  noColon := by decide
  entries := [⟨solicitedNode, rfl, some 2⟩]
  ended := true

def shown : List Char :=
  "25:\tthread-wpan\n\tinet6 ff02::1:ff00:1 users 2\n".toList

def showing : Lab :=
  { Lab.ofSerials ["S1"] [] 0 with script := { shell := [.ok (Text.Utf8.encodeChars shown)] } }

theorem decode_shown : Text.Utf8.decode (Text.Utf8.encodeChars shown) = .ok solicited.text := by
  have same : solicited.text = Text.ofChars shown := by decide +kernel
  rw [same]
  exact Text.Utf8.decode_of_ascii (by decide)

theorem isInGroup_listed_solicited :
    Ip.Reference.Means (.reported (.text "FF02::0001:FF00:1")) solicitedNode ∧
      solicitedNode.scope = none ∧
      showing.script.shell.head? = some (.ok (Text.Utf8.encodeChars shown)) ∧
      Text.Utf8.decode (Text.Utf8.encodeChars shown) = .ok solicited.text ∧
      ∃ found, (Session.isInGroup 0 "thread-wpan" (.reported (.text "FF02::0001:FF00:1"))
          showing).1 = .ok found ∧
        (found = true ↔
          ∃ entry ∈ solicited.entries, solicitedNode.text <:+: entry.group.text) ∧
        (solicitedNode ∈ solicited.entries.map Entry.group → found = true) := by
  have means : Ip.Reference.Means (.reported (.text "FF02::0001:FF00:1")) solicitedNode :=
    .spelled (Ip.V6.parse_eq_ok_iff.mp (by decide))
  exact ⟨means, rfl, rfl, decode_shown,
    isInGroup_listed means rfl solicited 0 "thread-wpan" rfl decode_shown⟩

/-- The group of all nodes is found where only another group is listed. -/
theorem isInGroup_unlisted :
    (Session.isInGroup 0 "thread-wpan" (.known allNodes) showing).1 = .ok true ∧
      allNodes ∉ solicited.entries.map Entry.group := by
  have within : allNodes.text <:+: solicitedNode.text := Text.occursIn_iff.mp (by decide)
  have found : names solicited.text allNodes = true :=
    (names_text_iff rfl solicited).mpr ⟨_, List.mem_singleton_self _, within⟩
  have answered : (Session.isInGroup 0 "thread-wpan" (.known allNodes) showing).1 = _ :=
    isInGroup_of_reply (.known allNodes) 0 "thread-wpan" rfl decode_shown
  rw [found] at answered
  exact ⟨answered, by decide⟩

end ThreadLab.Listing.Groups
