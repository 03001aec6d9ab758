import ThreadLab.Proofs.Clock
import ThreadLab.Proofs.Ip.V6.Text
import ThreadLab.Proofs.Session.Act
import ThreadLab.Proofs.Text.Integer.Spelling
import ThreadLab.Proofs.Text.Search
import ThreadLab.Proofs.Text.Utf8
import ThreadLab.Session.Interface

namespace ThreadLab

namespace Text

theorem not_ascii_of_hexValue? {c : CodePoint} (foreign : hexValue? c = none) : ¬IsAsciiDigit c := by
  intro digit
  have decimal : ('0' : CodePoint) ≤ c ∧ c ≤ '9' := digit
  rw [hexValue?, if_pos decimal] at foreign
  cases foreign

theorem foreign_of_blank {c : CodePoint} (blank : isBlank c = true) :
    hexValue? c = none ∧ c ≠ '.' ∧ c ≠ ':' ∧ c ≠ '/' := by
  have outside : c.toNat ≤ 0x20 ∨ 0x85 ≤ c.toNat := by
    simp only [isBlank, Bool.and_eq_true, Bool.or_eq_true, decide_eq_true_eq, beq_iff_eq] at blank
    omega
  have apart : ∀ least most : Char, 0x20 < least.toNat → most.toNat < 0x85 →
      ¬(CodePoint.ofChar least ≤ c ∧ c ≤ CodePoint.ofChar most) := by
    intro least most above below between
    have first : least.toNat ≤ c.toNat := between.1
    have last : c.toNat ≤ most.toNat := between.2
    omega
  have other : ∀ d : Char, 0x20 < d.toNat → d.toNat < 0x85 → c ≠ CodePoint.ofChar d := by
    rintro d above below rfl
    exact apart d d above below ⟨Nat.le_refl _, Nat.le_refl _⟩
  refine ⟨?_, other '.' (by decide) (by decide), other ':' (by decide) (by decide),
    other '/' (by decide) (by decide)⟩
  rw [hexValue?, if_neg (apart '0' '9' (by decide) (by decide)),
    if_neg (apart 'a' 'f' (by decide) (by decide)), if_neg (apart 'A' 'F' (by decide) (by decide))]

end Text

namespace Listing.Addresses

def mark : Text := "deprecated"

def IsWord (word : Text) : Prop :=
  word ≠ [] ∧ ∀ c ∈ word, Text.isBlank c = false

instance : DecidablePred IsWord :=
  fun _ => inferInstanceAs (Decidable (_ ∧ _))

/-- An address as it is listed, in one of its spellings and with any words after its length. -/
structure Entry where
  spelling : Text
  address : Ip.V6
  spelled : Ip.V6.Spells spelling address
  scopeless : address.scope = none
  size : Nat
  small : size ≤ 128
  scope : Text
  flags : List Text
  words : ∀ word ∈ scope :: flags, IsWord word
  /-- Nothing in the line holds the mark but flags that are the mark itself. -/
  unmarked : ¬mark <:+: scope
  marked : ∀ flag ∈ flags, mark <:+: flag → flag = mark

namespace Entry

variable (entry : Entry)

def place : Text :=
  entry.spelling ++ lengthMark :: toString entry.size

def pieces : List Text :=
  "inet6" :: entry.place :: "scope" :: entry.scope :: entry.flags

def text : Text :=
  "    " ++ Text.join ' ' entry.pieces

def Deprecated : Prop :=
  mark ∈ entry.flags

instance : DecidablePred Deprecated :=
  fun entry => inferInstanceAs (Decidable (mark ∈ entry.flags))

def link (time : Int) : LinkAddress where
  address := entry.address
  prefixLength := .integer entry.size
  deprecationTime := .integer (if entry.Deprecated then time else Settings.permanent)

end Entry

inductive Row where
  | address (entry : Entry)
  | other (line : Text) (noBreak : ('\n' : CodePoint) ∉ line)
    (noAddress : ¬Text.ofString "inet6" <:+: line)

def Row.text : Row → Text
  | address entry => entry.text
  | other line _ _ => line

def Row.entry? : Row → Option Entry
  | address entry => some entry
  | other _ _ _ => none

def listing (rows : List Row) : Text :=
  Text.join '\n' (rows.map Row.text)

def entries (rows : List Row) : List Entry :=
  rows.filterMap Row.entry?

theorem cutAtSlash_append {spelling : Text} (clean : lengthMark ∉ spelling) (size : Text) :
    cutAtSlash (spelling ++ lengthMark :: size) = .ok (spelling, size) := by
  have before : ∀ c ∈ spelling, decide (c ≠ lengthMark) = true := by
    intro c member
    rw [decide_eq_true_iff]
    rintro rfl
    exact clean member
  rw [cutAtSlash, List.dropWhile_append_of_pos before, List.takeWhile_append_of_pos before]
  simp

namespace Entry

variable (entry : Entry)

theorem not_mem_spelling {c : CodePoint} (foreign : Text.hexValue? c = none) (noDot : c ≠ '.')
    (noColon : c ≠ ':') : c ∉ entry.spelling := by
  have scopeless := entry.scopeless
  have spelled := entry.spelled
  generalize entry.address = address at scopeless spelled
  generalize entry.spelling = spelling at spelled ⊢
  cases spelled with
  | plain groups => exact groups.not_mem foreign noDot noColon
  | onLink groups scope => exact absurd scopeless (Option.some_ne_none scope)

theorem not_mem_place {c : CodePoint} (foreign : Text.hexValue? c = none) (noDot : c ≠ '.')
    (noColon : c ≠ ':') (noSlash : c ≠ '/') : c ∉ entry.place := by
  intro member
  rcases List.mem_append.mp member with spelling | size
  · exact entry.not_mem_spelling foreign noDot noColon spelling
  · rcases List.mem_cons.mp size with slash | digit
    · exact noSlash slash
    · exact Text.not_mem_toString (Text.not_ascii_of_hexValue? foreign) entry.size digit

theorem isWord_piece {piece : Text} (member : piece ∈ entry.pieces) : IsWord piece := by
  simp only [pieces, List.mem_cons] at member
  rcases member with rfl | rfl | rfl | last
  · exact ⟨by decide, by decide⟩
  · refine ⟨List.append_ne_nil_of_right_ne_nil _ (List.cons_ne_nil _ _), ?_⟩
    intro c inside
    rw [Bool.eq_false_iff]
    intro blank
    obtain ⟨foreign, noDot, noColon, noSlash⟩ := Text.foreign_of_blank blank
    exact entry.not_mem_place foreign noDot noColon noSlash inside
  · exact ⟨by decide, by decide⟩
  · exact entry.words piece (List.mem_cons.mpr last)

def indented : List Text :=
  List.replicate 4 [] ++ entry.pieces

theorem text_eq : entry.text = Text.join ' ' entry.indented := rfl

theorem whole_indented : ∀ piece ∈ entry.indented, ∀ c ∈ piece, Text.isBlank c = false := by
  intro piece member c inside
  rcases List.mem_append.mp member with empty | piece
  · rw [List.eq_of_mem_replicate empty] at inside
    cases inside
  · exact (entry.isWord_piece piece).2 c inside

theorem words_text : Text.words entry.text = entry.pieces := by
  have all : entry.pieces.filter (· ≠ []) = entry.pieces := by
    apply List.filter_eq_self.mpr
    intro piece member
    exact decide_eq_true (entry.isWord_piece member).1
  rw [text_eq, Text.words_join (by decide) entry.whole_indented, indented, List.filter_append, all]
  rfl

theorem noBreak_text : ('\n' : CodePoint) ∉ entry.text := by
  intro member
  rw [text_eq] at member
  rcases Text.mem_join member with space | ⟨piece, inside, found⟩
  · exact absurd space (by decide)
  · exact absurd (entry.whole_indented piece inside _ found) (by decide)

theorem infix_text_iff {pattern : Text} (some : pattern ≠ []) (clean : (' ' : CodePoint) ∉ pattern) :
    pattern <:+: entry.text ↔ ∃ piece ∈ entry.pieces, pattern <:+: piece := by
  have nonempty : entry.indented ≠ [] := List.cons_ne_nil _ _
  rw [text_eq, Text.infix_join_iff clean nonempty]
  constructor
  · rintro ⟨piece, member, stands⟩
    rcases List.mem_append.mp member with empty | listed
    · rw [List.eq_of_mem_replicate empty, List.infix_nil] at stands
      exact absurd stands some
    · exact ⟨piece, listed, stands⟩
  · rintro ⟨piece, listed, stands⟩
    exact ⟨piece, List.mem_append_right _ listed, stands⟩

theorem occursIn_mark : Text.occursIn mark entry.text = true ↔ entry.Deprecated := by
  have family : ¬mark <:+: Text.ofString "inet6" :=
    Text.not_infix_of_not_mem 'd' (by decide) (by decide)
  have place : ¬mark <:+: entry.place := by
    apply Text.not_infix_of_not_mem 'p' (by decide)
    exact entry.not_mem_place (by decide) (by decide) (by decide) (by decide)
  have label : ¬mark <:+: Text.ofString "scope" :=
    Text.not_infix_of_not_mem 'd' (by decide) (by decide)
  rw [Text.occursIn_iff, entry.infix_text_iff (by decide) (by decide)]
  simp only [pieces, List.mem_cons, exists_eq_or_imp, family, place, label, entry.unmarked, false_or]
  constructor
  · rintro ⟨flag, member, stands⟩
    have same := entry.marked flag member stands
    rwa [same] at member
  · intro member
    exact ⟨mark, member, List.infix_rfl⟩

theorem isAddressLine_text : isAddressLine entry.text = true := by
  rw [isAddressLine, Text.occursIn_iff, entry.infix_text_iff (by decide) (by decide)]
  exact ⟨_, List.mem_cons_self, List.infix_rfl⟩

theorem readSize_toString : readSize (toString entry.size) = .ok entry.size := by
  have short : (toString entry.size : Text).length ≤ Text.Integer.mostDigits := by
    have below : entry.size < 10 ^ 3 := Nat.lt_of_le_of_lt entry.small (by decide)
    have three : (Nat.toDigits 10 entry.size).length ≤ 3 :=
      (Nat.length_toDigits_le_iff (by decide) (by decide)).mpr below
    rw [Text.ofString_toString, Text.ofChars, List.length_map]
    exact three.trans (by decide)
  rw [readSize, Text.Integer.read_toString short]
  rfl

theorem readLine_text (time : Int) : readLine time entry.text = .ok (entry.link time) := by
  have word : addressWord entry.text = .ok entry.place := by
    rw [addressWord, words_text, pieces]
  have cut : cutAtSlash entry.place = .ok (entry.spelling, toString entry.size) :=
    cutAtSlash_append (entry.not_mem_spelling (by decide) (by decide) (by decide)) _
  have address : Ip.V6.parse entry.spelling = .ok entry.address :=
    Ip.V6.parse_eq_ok_iff.mpr entry.spelled
  have dated : deprecationTime time entry.text =
      if entry.Deprecated then time else Settings.permanent :=
    if_congr entry.occursIn_mark rfl rfl
  rw [readLine, word]
  simp only [Bind.bind, Except.bind, cut, address, entry.readSize_toString, dated]
  rfl

end Entry

theorem filter_isAddressLine (rows : List Row) :
    (rows.map Row.text).filter isAddressLine = (entries rows).map Entry.text := by
  induction rows with
  | nil => rfl
  | cons row rows ih =>
    cases row with
    | address entry =>
      rw [List.map_cons, Row.text, List.filter_cons_of_pos entry.isAddressLine_text, ih]
      rfl
    | other line noBreak noAddress =>
      have passed : ¬isAddressLine line = true := mt Text.occursIn_iff.mp noAddress
      rw [List.map_cons, Row.text, List.filter_cons_of_neg passed, ih]
      rfl

theorem lines_listing {rows : List Row} (some : rows ≠ []) :
    Text.lines (listing rows) = rows.map Row.text := by
  apply Text.splitAt_join (mt List.map_eq_nil_iff.mp some)
  intro line member
  obtain ⟨row, -, rfl⟩ := List.mem_map.mp member
  cases row with
  | address entry => exact entry.noBreak_text
  | other line noBreak noAddress => exact noBreak

theorem read_listing (time : Int) (rows : List Row) :
    read time (listing rows) = .ok ((entries rows).map fun entry => entry.link time) := by
  have lines : (Text.lines (listing rows)).filter isAddressLine = (entries rows).map Entry.text := by
    by_cases none : rows = []
    · subst none
      rfl
    · rw [lines_listing none, filter_isAddressLine]
  rw [read, lines, mapM_eq_ok_iff, List.forall₂_map_left_iff, List.forall₂_map_right_iff,
    List.forall₂_same]
  intro entry _
  exact entry.readLine_text time

/-- What is reported of an address that is listed, where the present is the instant `time`. -/
structure Shows (time : Int) (entry : Entry) (link : LinkAddress) : Prop where
  address : link.address = entry.address
  prefixLength : link.prefixLength = .integer entry.size
  flags : link.flags = .integer 0
  scope : link.scope = .integer 0
  expirationTime : link.expirationTime = .integer Settings.permanent
  isDeprecated : link.isDeprecated = true ↔ entry.Deprecated
  deprecationTime : entry.Deprecated → link.deprecationTime = .integer time
  text : link.text = entry.address.text ++ "/" ++ toString entry.size

theorem Entry.deprecationTime_link (entry : Entry) (time : Int) (deprecated : entry.Deprecated) :
    (entry.link time).deprecationTime = .integer time := by
  rw [link, if_pos deprecated]

theorem Entry.shows_link (entry : Entry) {time : Int} (ends : time ≠ Settings.permanent) :
    Shows time entry (entry.link time) where
  address := rfl
  prefixLength := rfl
  flags := rfl
  scope := rfl
  expirationTime := rfl
  isDeprecated := by
    rw [LinkAddress.isDeprecated, link, Json.same_integer]
    by_cases deprecated : entry.Deprecated
    · simp [deprecated, ends]
    · simp [deprecated]
  deprecationTime := entry.deprecationTime_link time
  text := rfl

theorem linkAddresses_eq (device : Nat) (interface : Text) (lab : Lab) :
    ∃ after, Session.linkAddresses device interface lab = (lab.printed >>= read lab.millis, after) ∧
      after.calls = lab.calls ++
        [.shell (lab.device device).serial (Session.addressesCommand interface)] := by
  obtain ⟨after, shown, calls, same⟩ :=
    Act.shellText_eq device (Session.addressesCommand interface) lab
  have ran : Session.linkAddresses device interface lab =
      (lab.printed >>= read after.millis, after) := Act.bind_of_still shown fun _ => rfl
  rw [same] at ran
  exact ⟨after, ran, calls⟩

section

variable {lab : Lab} {bytes : Bytes} {rows : List Row}

theorem linkAddresses_of_reply (device : Nat) (interface : Text)
    (reply : lab.script.shell.head? = some (.ok bytes))
    (decoded : Text.Utf8.decode bytes = .ok (listing rows)) :
    (Session.linkAddresses device interface lab).1 =
      .ok ((entries rows).map fun entry => entry.link lab.millis) := by
  obtain ⟨after, ran, -⟩ := linkAddresses_eq device interface lab
  have shown : lab.printed = .ok (listing rows) := Lab.printed_of_text reply decoded
  rw [ran, shown]
  exact read_listing lab.millis rows

/-- Every listed address is reported, and no other. The present is the product of the seconds on the
clock and 1000, without its fraction. Where the clock rounds nothing, these are the milliseconds that
have passed, unless it is before its zero; where it has numbers of 64 bits, the product can be rounded
up to the next millisecond. -/
theorem linkAddresses_listed (device : Nat) (interface : Text)
    (reply : lab.script.shell.head? = some (.ok bytes))
    (decoded : Text.Utf8.decode bytes = .ok (listing rows)) :
    (lab.millis ≠ Settings.permanent →
      ∃ links, (Session.linkAddresses device interface lab).1 = .ok links ∧
        List.Forall₂ (Shows lab.millis) (entries rows) links) ∧
    (lab.clock.round = id → lab.now / 1000 ≠ Settings.permanent →
      lab.millis ≠ Settings.permanent ∧ (0 ≤ lab.now → lab.millis = lab.now / 1000)) ∧
    (lab.clock.round = Binary64.nearestRat → lab.millis ≠ Settings.permanent ∧
      (0 ≤ lab.clock.reading lab.now → lab.clock.reading lab.now * 1000 < 2 ^ 52 →
        ⌊lab.clock.reading lab.now * 1000⌋ ≤ lab.millis ∧
          lab.millis ≤ ⌊lab.clock.reading lab.now * 1000⌋ + 1)) := by
  refine ⟨fun ends => ?_, fun plain ends => ?_, fun rounded => ?_⟩
  · refine ⟨_, linkAddresses_of_reply device interface reply decoded, ?_⟩
    rw [List.forall₂_map_right_iff, List.forall₂_same]
    intro entry _
    exact entry.shows_link ends
  · exact ⟨Clock.millis_ne_permanent plain ends, Clock.millis_eq_ediv plain⟩
  · exact ⟨Clock.millis_ne_permanent_of_nearest rounded lab.now, Clock.millis_of_nearest rounded⟩

end

def linkLocal : Entry where
  spelling := "FE80:0::5"
  address := ⟨0xfe800000000000000000000000000005, none, by decide⟩
  spelled := Ip.V6.parse_eq_ok_iff.mp (by decide)
  scopeless := rfl
  size := 64
  small := by decide
  scope := "link"
  flags := ["noprefixroute", mark]
  words := by decide
  unmarked := by decide
  marked := by decide +kernel

def meshLocal : Entry where
  spelling := "fd00:0db8::0:1234"
  address := ⟨0xfd000db8000000000000000000001234, none, by decide⟩
  spelled := Ip.V6.parse_eq_ok_iff.mp (by decide)
  scopeless := rfl
  size := 128
  small := by decide
  scope := "global"
  flags := []
  words := by decide
  unmarked := by decide
  marked := by decide +kernel

def twoAddresses : List Row :=
  [.other "3: wpan0" (by decide) (Text.not_infix_of_not_mem '6' (by decide) (by decide)),
    .address linkLocal,
    .other "       valid_lft forever" (by decide)
      (Text.not_infix_of_not_mem '6' (by decide) (by decide)),
    .address meshLocal,
    .other [] (by decide) (Text.not_infix_of_not_mem '6' (by decide) (by decide))]

def printed : List Char :=
  "3: wpan0\n    inet6 FE80:0::5/64 scope link noprefixroute deprecated\n".toList ++
    "       valid_lft forever\n    inet6 fd00:0db8::0:1234/128 scope global\n".toList

def printing (clock : Clock) (now : Int) : Lab :=
  { Lab.ofSerials ["S1"] [] now with
    clock, script := { shell := [.ok (Text.Utf8.encodeChars printed)] } }

theorem decode_printed :
    Text.Utf8.decode (Text.Utf8.encodeChars printed) = .ok (listing twoAddresses) := by
  have same : listing twoAddresses = Text.ofChars printed := by decide +kernel
  rw [same]
  exact Text.Utf8.decode_of_ascii (by decide +kernel)

theorem linkAddresses_listed_two :
    (printing .exact 1234567).script.shell.head? = some (.ok (Text.Utf8.encodeChars printed)) ∧
      Text.Utf8.decode (Text.Utf8.encodeChars printed) = .ok (listing twoAddresses) ∧
      (printing .exact 1234567).now / 1000 ≠ Settings.permanent ∧
      ∃ links, (Session.linkAddresses 0 "wpan0" (printing .exact 1234567)).1 = .ok links ∧
        List.Forall₂ (Shows 1234) (entries twoAddresses) links := by
  have ends : (printing .exact 1234567).now / 1000 ≠ Settings.permanent := by decide
  obtain ⟨listed, plain, -⟩ :=
    @linkAddresses_listed (printing .exact 1234567) _ _ 0 "wpan0" rfl decode_printed
  obtain ⟨never, passed⟩ := plain rfl ends
  rw [passed (by decide)] at listed never
  exact ⟨rfl, decode_printed, ends, listed never⟩

/-- After 0.29 seconds, in the number of 64 bits that is nearest to it and a little less, not yet 290
milliseconds have passed. -/
theorem linkAddresses_rounded_up :
    (printing .binary 290000).script.shell.head? = some (.ok (Text.Utf8.encodeChars printed)) ∧
      Text.Utf8.decode (Text.Utf8.encodeChars printed) = .ok (listing twoAddresses) ∧
      ⌊Clock.binary.reading 290000 * 1000⌋ = 289 ∧ (289 : Int) ≠ Settings.permanent ∧
      ¬∃ links, (Session.linkAddresses 0 "wpan0" (printing .binary 290000)).1 = .ok links ∧
        List.Forall₂ (Shows 289) (entries twoAddresses) links := by
  have millis : (printing .binary 290000).millis = 290 := by decide +kernel
  have floor : (Clock.binary.reading 290000 * 1000).floor = 289 := by decide +kernel
  refine ⟨rfl, decode_printed, floor, by decide, ?_⟩
  rintro ⟨links, reported, shown⟩
  have answered : (Session.linkAddresses 0 "wpan0" (printing .binary 290000)).1 = _ :=
    linkAddresses_of_reply 0 "wpan0" rfl decode_printed
  rw [reported, millis] at answered
  cases answered
  have deprecated : linkLocal.Deprecated := by decide
  have time := (List.forall₂_cons.mp shown).1.deprecationTime deprecated
  have same := Json.integer.inj ((linkLocal.deprecationTime_link _ deprecated).symm.trans time)
  exact absurd same (by decide)

end Listing.Addresses

end ThreadLab
