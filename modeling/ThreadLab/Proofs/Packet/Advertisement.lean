import ThreadLab.Proofs.Packet.Codec
import ThreadLab.Proofs.Packet.Walk

namespace ThreadLab.Packet

open Header

theorem number_kind_ofBytes (kind : UInt8) (body : Bytes) :
    (PrefixInformation.ofBytes (kind :: body)).kind = kind.toNat := by
  simp [PrefixInformation.ofBytes, Bytes.slice, Bytes.number, Positional.ofDigits]

/-- An option as a router sends it: a Prefix Information Option, or any other with its type, its
length in units of eight bytes, and what follows these two bytes. -/
inductive SentOption where
  | information (option : PrefixInformation)
  | other (kind length : UInt8) (body : Bytes)

namespace SentOption

/-- The length byte of a Prefix Information Option may be any. -/
def Valid : SentOption → Prop
  | information option =>
    option.kind = NdOptionType.prefixInformation.number ∧ Layout.Encodable option ∧
      Layout.ScopeFree option
  | other kind length body => kind ≠ 3 ∧ length ≠ 0 ∧ body.length + 2 = 8 * length.toNat

instance (option : SentOption) : Decidable option.Valid :=
  match option with
  | information _ => inferInstanceAs (Decidable (_ ∧ _))
  | other _ _ _ => inferInstanceAs (Decidable (_ ∧ _))

def toBytes? : SentOption → Option Bytes
  | information option => Header.toBytes? option
  | other kind length body => some (kind :: length :: body)

def information? : SentOption → Option PrefixInformation
  | information option => some option
  | other _ _ _ => none

theorem exists_toBytes? {option : SentOption} (valid : option.Valid) :
    ∃ bytes, option.toBytes? = some bytes := by
  cases option with
  | information option => exact Layout.exists_toBytes? valid.2.1
  | other kind length body => exact ⟨_, rfl⟩

theorem information_begins {option : PrefixInformation} {bytes : Bytes}
    (valid : (information option).Valid) (written : Header.toBytes? option = some bytes) :
    ∃ length body, bytes = 3 :: length :: body := by
  obtain ⟨known, -, free⟩ := valid
  have whole : bytes.length = 32 := Layout.length_of_toBytes? written
  have read : ofBytes bytes = option :=
    (Layout.ofBytes_of_toBytes? written).trans ((Layout.withoutScopes_eq_iff option).mpr free)
  match bytes with
  | [] | [_] => simp at whole
  | kind :: length :: body =>
    have number : (kind.toNat : Int) = NdOptionType.prefixInformation.number := by
      rw [← number_kind_ofBytes kind (length :: body), ← known, ← read]
      rfl
    have three : kind = 3 := by
      rw [← isPrefixInformation_iff, isPrefixInformation, beq_iff_eq]
      exact number
    exact ⟨length, body, by rw [three]⟩

theorem prefixOptions_append {option : SentOption} {bytes : Bytes} (valid : option.Valid)
    (written : option.toBytes? = some bytes) (rest : Bytes) :
    prefixOptions (bytes ++ rest) = option.information?.toList ++ prefixOptions rest := by
  cases option with
  | information option =>
    have whole : bytes.length = 32 := Layout.length_of_toBytes? written
    have read := Layout.parse_append_toBytes? written [] rest
    rw [(Layout.withoutScopes_eq_iff option).mpr valid.2.2] at read
    obtain ⟨length, body, begins⟩ := information_begins valid written
    have size : optionSize? (bytes ++ rest) = some 32 := by
      rw [optionSize?_information (congrArg (· ++ rest) begins), if_pos]
      rw [List.length_append]
      omega
    have found : prefixInformation? (bytes ++ rest) = some option := by
      rw [begins] at read ⊢
      exact congrArg Except.toOption read
    rw [prefixOptions_of_size size, found, ← whole, List.drop_left]
    rfl
  | other kind length body =>
    obtain ⟨other, positive, whole⟩ := valid
    cases written
    have size : optionSize? (kind :: length :: body ++ rest) = some (8 * length.toNat) := by
      rw [List.cons_append, List.cons_append, optionSize?_other other, if_neg positive]
    have skipped : (kind :: length :: body ++ rest).drop (8 * length.toNat) = rest :=
      List.drop_left' (by simpa using whole)
    rw [prefixOptions_of_size size, skipped, List.cons_append, prefixInformation?_other other]
    rfl

end SentOption

/-- What a message may end in after its last whole option: nothing or one byte, an option of length
zero that is no Prefix Information Option with anything after it, or an option that is cut short. -/
inductive Tail : Bytes → Prop where
  | empty : Tail []
  | single (byte : UInt8) : Tail [byte]
  | lengthless (kind : UInt8) (rest : Bytes) : kind ≠ 3 → Tail (kind :: 0 :: rest)
  | cutInformation (length : UInt8) (body : Bytes) : body.length + 2 < 32 →
    Tail (3 :: length :: body)
  | cutOther (kind length : UInt8) (body : Bytes) : kind ≠ 3 → 1 ≤ length →
    body.length + 2 < 8 * length.toNat → Tail (kind :: length :: body)

theorem Tail.prefixOptions_eq_nil {tail : Bytes} (ends : Tail tail) : prefixOptions tail = [] := by
  cases ends with
  | empty => exact prefixOptions_of_end rfl
  | single byte => exact prefixOptions_of_end rfl
  | lengthless kind rest other =>
    apply prefixOptions_of_end
    rw [optionSize?_other other, if_pos rfl]
  | cutInformation length body short =>
    have cut : ¬ 32 ≤ (3 :: length :: body : Bytes).length := by
      simp only [List.length_cons]
      omega
    apply prefixOptions_of_end
    rw [optionSize?_information rfl, if_neg cut]
  | cutOther kind length body other positive short =>
    have nonzero : length ≠ 0 := by
      rintro rfl
      exact absurd positive (by decide)
    have size : optionSize? (kind :: length :: body) = some (8 * length.toNat) := by
      rw [optionSize?_other other, if_neg nonzero]
    have rest : (kind :: length :: body).drop (8 * length.toNat) = [] := by
      rw [List.drop_eq_nil_iff]
      simp only [List.length_cons]
      omega
    rw [prefixOptions_of_size size, rest, prefixInformation?_other other, prefixOptions_of_end rfl]
    rfl

structure Advertisement where
  header : Ipv6Header
  message : Icmpv6Header
  router : RouterHeader
  options : List SentOption

namespace Advertisement

/-- Every field fits its place on the wire, and the first two headers announce an advertisement. -/
structure Valid (advertisement : Advertisement) : Prop where
  header : Layout.Encodable advertisement.header
  message : Layout.Encodable advertisement.message
  router : Layout.Encodable advertisement.router
  options : ∀ option ∈ advertisement.options, option.Valid
  carries : advertisement.header.nextHeader = icmpv6Protocol
  advertises : advertisement.message.kind = Icmpv6Type.routerAdvertisement.number

def toBytes? (advertisement : Advertisement) : Option Bytes := do
  let header ← Header.toBytes? advertisement.header
  let message ← Header.toBytes? advertisement.message
  let router ← Header.toBytes? advertisement.router
  let options ← advertisement.options.mapM SentOption.toBytes?
  return header ++ message ++ router ++ options.flatten

theorem exists_mapM_toBytes? {options : List SentOption} (valid : ∀ option ∈ options, option.Valid) :
    ∃ rows, options.mapM SentOption.toBytes? = some rows := by
  induction options with
  | nil => exact ⟨[], rfl⟩
  | cons option options ih =>
    obtain ⟨bytes, written⟩ := SentOption.exists_toBytes? (valid option (by simp))
    obtain ⟨rows, others⟩ := ih fun other member => valid other (List.mem_cons_of_mem _ member)
    exact ⟨bytes :: rows, by simp [written, others]⟩

theorem prefixOptions_mapM {options : List SentOption} {rows : List Bytes}
    (valid : ∀ option ∈ options, option.Valid)
    (written : options.mapM SentOption.toBytes? = some rows) (tail : Bytes) :
    prefixOptions (rows.flatten ++ tail) =
      options.filterMap SentOption.information? ++ prefixOptions tail := by
  induction options generalizing rows with
  | nil =>
    cases written
    rfl
  | cons option options ih =>
    rw [List.mapM_cons] at written
    obtain ⟨bytes, wrote, remaining⟩ := Option.bind_eq_some_iff.mp written
    obtain ⟨others, wroteOthers, joined⟩ := Option.bind_eq_some_iff.mp remaining
    cases joined
    have rest := ih (fun other member => valid other (List.mem_cons_of_mem _ member)) wroteOthers
    rw [List.flatten_cons, List.append_assoc,
      SentOption.prefixOptions_append (valid option (by simp)) wrote, rest, List.filterMap_cons]
    cases option <;> rfl

theorem isRouterAdvertisement_append {header : Ipv6Header} {message : Icmpv6Header}
    {router : RouterHeader} {first second third : Bytes}
    (wroteHeader : Header.toBytes? header = some first)
    (wroteMessage : Header.toBytes? message = some second)
    (wroteRouter : Header.toBytes? router = some third)
    (carries : header.nextHeader = icmpv6Protocol)
    (advertises : message.kind = Icmpv6Type.routerAdvertisement.number) (rest : Bytes) :
    isRouterAdvertisement (first ++ second ++ third ++ rest) = .ok true := by
  have size : first.length = icmpv6Offset := Layout.length_of_toBytes? wroteHeader
  have sizes : (first ++ second).length = routerOffset := by
    rw [List.length_append, size, Layout.length_of_toBytes? wroteMessage]
    rfl
  have readHeader := Layout.parse_append_toBytes? wroteHeader [] (second ++ third ++ rest)
  have readMessage := Layout.parse_append_toBytes? wroteMessage first (third ++ rest)
  have readRouter := Layout.parse_append_toBytes? wroteRouter (first ++ second) rest
  rw [size] at readMessage
  rw [sizes] at readRouter
  simp only [List.nil_append, List.append_assoc] at readHeader readMessage readRouter ⊢
  have protocol : (Layout.withoutScopes header).nextHeader = icmpv6Protocol := carries
  have kind : (Layout.withoutScopes message).kind = Icmpv6Type.routerAdvertisement.number :=
    advertises
  change parse _ 0 = _ at readHeader
  simp only [isRouterAdvertisement, readHeader, readMessage, readRouter, protocol, kind,
    Bind.bind, Except.bind, Pure.pure, Except.pure, ne_eq, not_true_eq_false, ite_false]

/-- What is found in a message with a tail are the Prefix Information Options that were put into it,
in order and with all their fields. -/
theorem advertisedPrefixes_sent (advertisement : Advertisement) (tail : Bytes)
    (valid : advertisement.Valid) (ends : Tail tail) :
    ∃ bytes, advertisement.toBytes? = some bytes ∧
      advertisedPrefixes (some (bytes ++ tail)) =
        advertisement.options.filterMap SentOption.information? := by
  obtain ⟨first, wroteHeader⟩ := Layout.exists_toBytes? valid.header
  obtain ⟨second, wroteMessage⟩ := Layout.exists_toBytes? valid.message
  obtain ⟨third, wroteRouter⟩ := Layout.exists_toBytes? valid.router
  obtain ⟨rows, wroteOptions⟩ := exists_mapM_toBytes? valid.options
  refine ⟨first ++ second ++ third ++ rows.flatten, ?_, ?_⟩
  · simp only [toBytes?, wroteHeader, wroteMessage, wroteRouter, wroteOptions, Option.bind_eq_bind,
      Option.bind_some, Option.pure_def]
  · have known := isRouterAdvertisement_append wroteHeader wroteMessage wroteRouter valid.carries
      valid.advertises (rows.flatten ++ tail)
    have start : (first ++ second ++ third).length = optionsOffset := by
      rw [List.length_append, List.length_append, Layout.length_of_toBytes? wroteHeader,
        Layout.length_of_toBytes? wroteMessage, Layout.length_of_toBytes? wroteRouter]
      rfl
    have found := prefixOptions_mapM valid.options wroteOptions tail
    rw [ends.prefixOptions_eq_nil, List.append_nil] at found
    rw [advertisedPrefixes, List.append_assoc, known]
    dsimp only
    rw [← start, List.drop_left, found]

def unevenAdvertisement : Advertisement where
  header := ⟨0x60000000, 80, 58, 255, .ofNumber (0xfe80 <<< 112 + 1), .ofNumber (0xff02 <<< 112 + 1)⟩
  message := ⟨134, 0, 0xffff⟩
  router := ⟨64, 0, 1800, 0, 0xffffffff⟩
  options := [
    .other 5 1 [0, 0, 0, 0, 5, 220],
    .information {
      prefixLength := 200, flags := 0xc0, validLifetime := 0xffffffff, preferredLifetime := 0,
      base := .ofNumber (0x20010db8 <<< 96), length := 0, reserved := 7 }]

theorem advertisedPrefixes_sent_uneven :
    unevenAdvertisement.Valid ∧ Tail [3, 4, 64] ∧ ∃ bytes,
      unevenAdvertisement.toBytes? = some bytes ∧
      advertisedPrefixes (some (bytes ++ [3, 4, 64])) =
        unevenAdvertisement.options.filterMap SentOption.information? := by
  have valid : unevenAdvertisement.Valid :=
    ⟨by decide, by decide, by decide, by decide, rfl, rfl⟩
  have ends : Tail [3, 4, 64] := .cutInformation 4 [64] (by decide)
  exact ⟨valid, ends, advertisedPrefixes_sent unevenAdvertisement [3, 4, 64] valid ends⟩

end Advertisement

end ThreadLab.Packet
