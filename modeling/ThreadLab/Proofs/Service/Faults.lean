import ThreadLab.Proofs.Base64.Accepted
import ThreadLab.Proofs.Service.RoundTrip

namespace ThreadLab.Service.Info

inductive AttributeReadable : Json → Prop
  | null : AttributeReadable .null
  | text {text : Text} (accepted : Base64.Accepted text) : AttributeReadable (.text text)

inductive AttributeFault : Json → Fault → Prop
  | base64 {text : Text} {cause : Base64.Fault} (refused : Base64.Refused text cause) :
    AttributeFault (.text text) (.base64 cause)
  | wrongKind {value : Json} (given : value ≠ .null) (other : ∀ text, value ≠ .text text) :
    AttributeFault value .wrongKind

def AttributesReadable (value : Json) : Prop :=
  value.isTruthy = true →
    ∃ entries, value = .object entries ∧ ∀ entry ∈ entries, AttributeReadable entry.2

inductive AttributesFault : Json → Fault → Prop
  | noObject {value : Json} (truthy : value.isTruthy = true)
    (other : ∀ entries, value ≠ .object entries) : AttributesFault value .noObject
  | entry {before after : List (Text × Json)} {key : Text} {value : Json} {fault : Fault}
    (readable : ∀ entry ∈ before, AttributeReadable entry.2) (faulty : AttributeFault value fault) :
    AttributesFault (.object (before ++ (key, value) :: after)) fault

/-- The values that are gone through as addresses: the items of a list, the characters of a text,
the keys of an object. -/
inductive Yields : Json → List Json → Prop
  | items (items : List Json) : Yields (.array items) items
  | characters (text : Text) : Yields (.text text) (text.map fun c => .text [c])
  | keys (fields : List (Text × Json)) :
    Yields (.object fields) (fields.map fun field => .text field.1)

def IsAddress (value : Json) : Prop :=
  ∃ address, Ip.Address.Denotes value address

def HostsReadable (value : Json) : Prop :=
  value.isTruthy = true → ∃ items, Yields value items ∧ ∀ item ∈ items, IsAddress item

inductive HostsFault : Json → Fault → Prop
  | wrongKind {value : Json} (truthy : value.isTruthy = true)
    (other : ∀ items, ¬Yields value items) : HostsFault value .wrongKind
  | item {value : Json} {before after : List Json} {item : Json}
    (yields : Yields value (before ++ item :: after)) (readable : ∀ other ∈ before, IsAddress other)
    (faulty : ¬IsAddress item) : HostsFault value (.noAddress item)

section

variable (fields : List (Text × Json))

def Gives (key : Text) (value : Json) : Prop :=
  (key, value) ∈ fields

def Has (key : Text) : Prop :=
  ∃ value, Gives fields key value

def GivesOr (key : Text) (otherwise value : Json) : Prop :=
  Gives fields key value ∨ ¬Has fields key ∧ value = otherwise

structure Faultless : Prop where
  attributes : ∀ value, Gives fields "attributes" value → AttributesReadable value
  name : Has fields "serviceName"
  kind : Has fields "serviceType"
  hosts : ∀ value, Gives fields "hostAddresses" value → HostsReadable value

/-- The fault of the first stage that fails; nothing is asked of the stages after it. -/
inductive FirstFault : Fault → Prop
  | attributes {value : Json} {fault : Fault} (given : Gives fields "attributes" value)
    (faulty : AttributesFault value fault) : FirstFault fault
  | name (attributes : ∀ value, Gives fields "attributes" value → AttributesReadable value)
    (missing : ¬Has fields "serviceName") : FirstFault (.unknownKey "serviceName")
  | kind (attributes : ∀ value, Gives fields "attributes" value → AttributesReadable value)
    (name : Has fields "serviceName") (missing : ¬Has fields "serviceType") :
    FirstFault (.unknownKey "serviceType")
  | hosts {value : Json} {fault : Fault}
    (attributes : ∀ value, Gives fields "attributes" value → AttributesReadable value)
    (name : Has fields "serviceName") (kind : Has fields "serviceType")
    (given : Gives fields "hostAddresses" value) (faulty : HostsFault value fault) :
    FirstFault fault

structure TakenOver (info : Info) : Prop where
  name : Gives fields "serviceName" info.name
  kind : Gives fields "serviceType" info.kind
  port : GivesOr fields "port" (.integer 0) info.port
  network : GivesOr fields "network" .null info.network

end

theorem readAttribute_isOk_iff {value : Json} :
    (∃ bytes, readAttribute value = .ok bytes) ↔ AttributeReadable value := by
  constructor
  · rintro ⟨bytes, read⟩
    cases value with
    | null => exact .null
    | text text =>
      cases decoded : Base64.decode text with
      | ok bytes => exact .text (Base64.decode_isOk_iff.mp ⟨bytes, decoded⟩)
      | error cause =>
        rw [readAttribute, decoded] at read
        cases read
    | _ => cases read
  · intro readable
    cases readable with
    | null => exact ⟨[], rfl⟩
    | text accepted =>
      obtain ⟨bytes, decoded⟩ := Base64.decode_isOk_iff.mpr accepted
      rw [readAttribute, decoded]
      exact ⟨bytes, rfl⟩

theorem readAttribute_eq_error_iff {value : Json} {fault : Fault} :
    readAttribute value = .error fault ↔ AttributeFault value fault := by
  constructor
  · intro failed
    cases value with
    | null => cases failed
    | text text =>
      cases decoded : Base64.decode text with
      | ok bytes =>
        rw [readAttribute, decoded] at failed
        cases failed
      | error cause =>
        rw [readAttribute, decoded] at failed
        cases failed
        exact .base64 (Base64.decode_eq_error_iff.mp decoded)
    | _ =>
      cases failed
      refine .wrongKind ?_ ?_ <;> simp
  · intro faulty
    cases faulty with
    | base64 refused =>
      rw [readAttribute, Base64.decode_eq_error_iff.mpr refused]
      rfl
    | wrongKind given other =>
      cases value with
      | null => exact absurd rfl given
      | text text => exact absurd rfl (other text)
      | _ => rfl

def readEntry (entry : Text × Json) : Except Fault (Text × Bytes) := do
  let bytes ← readAttribute entry.2
  return (entry.1, bytes)

theorem readAttributeFields_eq_mapM (entries : List (Text × Json)) :
    readAttributeFields entries = entries.mapM readEntry := by
  induction entries with
  | nil => rfl
  | cons entry entries ih =>
    rw [readAttributeFields, List.mapM_cons, ih, readEntry, bind_assoc]
    rfl

theorem readEntry_isOk_iff {entry : Text × Json} :
    (∃ read, readEntry entry = .ok read) ↔ AttributeReadable entry.2 := by
  rw [← readAttribute_isOk_iff]
  constructor
  · rintro ⟨read, found⟩
    obtain ⟨bytes, found, -⟩ := bind_eq_ok.mp found
    exact ⟨bytes, found⟩
  · rintro ⟨bytes, found⟩
    exact ⟨(entry.1, bytes), bind_eq_ok.mpr ⟨bytes, found, rfl⟩⟩

theorem readEntry_eq_error_iff {entry : Text × Json} {fault : Fault} :
    readEntry entry = .error fault ↔ AttributeFault entry.2 fault := by
  rw [← readAttribute_eq_error_iff, readEntry, bind_eq_error]
  constructor
  · rintro (failed | ⟨bytes, -, ended⟩)
    · exact failed
    · cases ended
  · exact .inl

theorem isTruthy_of_mem {entries : List (Text × Json)} {entry : Text × Json}
    (member : entry ∈ entries) : (Json.object entries).isTruthy = true := by
  cases entries with
  | nil => cases member
  | cons => rfl

theorem readAttributes_object (entries : List (Text × Json)) :
    readAttributes (.object entries) = entries.mapM readEntry := by
  rw [← readAttributeFields_eq_mapM]
  cases entries <;> rfl

theorem readAttributes_of_blank {value : Json} (blank : ¬value.isTruthy = true) :
    readAttributes value = .ok [] := by
  unfold readAttributes
  rw [if_neg blank]

theorem readAttributes_of_other {value : Json} (truthy : value.isTruthy = true)
    (other : ∀ entries, value ≠ .object entries) : readAttributes value = .error .noObject := by
  unfold readAttributes
  rw [if_pos truthy]
  cases value with
  | object entries => exact absurd rfl (other entries)
  | _ => rfl

theorem readAttributes_isOk_iff {value : Json} :
    (∃ entries, readAttributes value = .ok entries) ↔ AttributesReadable value := by
  by_cases object : ∃ entries, value = .object entries
  · obtain ⟨entries, rfl⟩ := object
    rw [readAttributes_object, mapM_isOk_iff]
    simp only [readEntry_isOk_iff]
    constructor
    · exact fun readable _ => ⟨entries, rfl, readable⟩
    · intro readable entry member
      obtain ⟨others, same, each⟩ := readable (isTruthy_of_mem member)
      cases same
      exact each entry member
  · by_cases truthy : value.isTruthy = true
    · rw [readAttributes_of_other truthy fun entries same => object ⟨entries, same⟩]
      constructor
      · rintro ⟨entries, read⟩
        cases read
      · intro readable
        obtain ⟨entries, same, -⟩ := readable truthy
        exact absurd ⟨entries, same⟩ object
    · rw [readAttributes_of_blank truthy]
      exact ⟨fun _ given => absurd given truthy, fun _ => ⟨[], rfl⟩⟩

theorem readAttributes_eq_error_iff {value : Json} {fault : Fault} :
    readAttributes value = .error fault ↔ AttributesFault value fault := by
  constructor
  · intro failed
    by_cases object : ∃ entries, value = .object entries
    · obtain ⟨entries, rfl⟩ := object
      rw [readAttributes_object, mapM_eq_error_iff] at failed
      obtain ⟨before, ⟨key, value⟩, after, rfl, readable, faulty⟩ := failed
      exact .entry (fun entry member => readEntry_isOk_iff.mp (readable entry member))
        (readEntry_eq_error_iff.mp faulty)
    · have other : ∀ entries, value ≠ .object entries := fun entries same => object ⟨entries, same⟩
      by_cases truthy : value.isTruthy = true
      · rw [readAttributes_of_other truthy other] at failed
        cases failed
        exact .noObject truthy other
      · rw [readAttributes_of_blank truthy] at failed
        cases failed
  · intro faulty
    cases faulty with
    | noObject truthy other => exact readAttributes_of_other truthy other
    | @entry before after key value _ readable faulty =>
      rw [readAttributes_object, mapM_eq_error_iff]
      exact ⟨before, (key, value), after, rfl,
        fun entry member => readEntry_isOk_iff.mpr (readable entry member),
        readEntry_eq_error_iff.mpr faulty⟩

theorem elements?_eq_some_iff {value : Json} {items : List Json} :
    value.elements? = some items ↔ Yields value items := by
  constructor
  · intro found
    cases value with
    | array items =>
      cases found
      exact .items items
    | text text =>
      cases found
      exact .characters text
    | object fields =>
      cases found
      exact .keys fields
    | _ => cases found
  · intro yields
    cases yields <;> rfl

theorem readHost_eq_ok_iff {value : Json} {address : Ip.Address} :
    readHost value = .ok address ↔ Ip.Address.Denotes value address := by
  rw [← Ip.Address.ofJson?_eq_some_iff, readHost]
  cases Ip.Address.ofJson? value <;> simp

theorem readHost_eq_error_iff {value : Json} {fault : Fault} :
    readHost value = .error fault ↔ ¬IsAddress value ∧ fault = .noAddress value := by
  cases read : readHost value with
  | ok address =>
    have known : IsAddress value := ⟨address, readHost_eq_ok_iff.mp read⟩
    exact ⟨nofun, fun unknown => absurd known unknown.1⟩
  | error other =>
    have unknown : ¬IsAddress value := by
      rintro ⟨address, denotes⟩
      rw [readHost_eq_ok_iff.mpr denotes] at read
      cases read
    have same : other = .noAddress value := by
      unfold readHost at read
      split at read
      · cases read
      · exact (Except.error.inj read).symm
    rw [same]
    exact ⟨fun failed => ⟨unknown, (Except.error.inj failed).symm⟩, fun both => by rw [both.2]⟩

theorem readHost_isOk_iff {value : Json} :
    (∃ address, readHost value = .ok address) ↔ IsAddress value :=
  exists_congr fun _ => readHost_eq_ok_iff

theorem readHosts_of_blank {value : Json} (blank : ¬value.isTruthy = true) :
    readHosts value = .ok [] := by
  rw [readHosts, if_neg blank]

theorem Yields.eq_nil_of_blank {value : Json} {items : List Json} (yields : Yields value items)
    (blank : ¬value.isTruthy = true) : items = [] := by
  cases yields <;> simpa [Json.isTruthy] using blank

theorem Yields.unique {value : Json} {items others : List Json} (yields : Yields value items)
    (yields' : Yields value others) : items = others := by
  rw [← elements?_eq_some_iff] at yields yields'
  exact Option.some.inj (yields.symm.trans yields')

theorem readHosts_of_yields {value : Json} {items : List Json} (yields : Yields value items) :
    readHosts value = items.mapM readHost := by
  -- what counts as missing yields nothing, and so may be gone through as well
  by_cases truthy : value.isTruthy = true
  · rw [readHosts, if_pos truthy, elements?_eq_some_iff.mpr yields]
  · rw [readHosts_of_blank truthy, yields.eq_nil_of_blank truthy]
    rfl

theorem readHosts_of_other {value : Json} (truthy : value.isTruthy = true)
    (other : ∀ items, ¬Yields value items) : readHosts value = .error .wrongKind := by
  rw [readHosts, if_pos truthy]
  cases found : value.elements? with
  | none => rfl
  | some items => exact absurd (elements?_eq_some_iff.mp found) (other items)

theorem readHosts_isOk_iff {value : Json} :
    (∃ hosts, readHosts value = .ok hosts) ↔ HostsReadable value := by
  by_cases taken : ∃ items, Yields value items
  · obtain ⟨items, yields⟩ := taken
    rw [readHosts_of_yields yields, mapM_isOk_iff]
    simp only [readHost_isOk_iff]
    constructor
    · exact fun readable _ => ⟨items, yields, readable⟩
    · intro readable
      by_cases truthy : value.isTruthy = true
      · obtain ⟨others, yields', each⟩ := readable truthy
        rwa [yields.unique yields']
      · rw [yields.eq_nil_of_blank truthy]
        exact nofun
  · by_cases truthy : value.isTruthy = true
    · rw [readHosts_of_other truthy fun items yields => taken ⟨items, yields⟩]
      constructor
      · rintro ⟨hosts, read⟩
        cases read
      · intro readable
        obtain ⟨items, yields, -⟩ := readable truthy
        exact absurd ⟨items, yields⟩ taken
    · rw [readHosts_of_blank truthy]
      exact ⟨fun _ given => absurd given truthy, fun _ => ⟨[], rfl⟩⟩

theorem readHosts_eq_error_iff {value : Json} {fault : Fault} :
    readHosts value = .error fault ↔ HostsFault value fault := by
  constructor
  · intro failed
    by_cases taken : ∃ items, Yields value items
    · obtain ⟨items, yields⟩ := taken
      rw [readHosts_of_yields yields, mapM_eq_error_iff] at failed
      obtain ⟨before, item, after, rfl, readable, faulty⟩ := failed
      obtain ⟨unknown, rfl⟩ := readHost_eq_error_iff.mp faulty
      exact .item yields (fun other member => readHost_isOk_iff.mp (readable other member)) unknown
    · have other : ∀ items, ¬Yields value items := fun items yields => taken ⟨items, yields⟩
      by_cases truthy : value.isTruthy = true
      · rw [readHosts_of_other truthy other] at failed
        cases failed
        exact .wrongKind truthy other
      · rw [readHosts_of_blank truthy] at failed
        cases failed
  · intro faulty
    cases faulty with
    | wrongKind truthy other => exact readHosts_of_other truthy other
    | @item before after item yields readable unknown =>
      rw [readHosts_of_yields yields, mapM_eq_error_iff]
      exact ⟨before, item, after, rfl,
        fun other member => readHost_isOk_iff.mpr (readable other member),
        readHost_eq_error_iff.mpr ⟨unknown, rfl⟩⟩

section

variable {fields : List (Text × Json)}

theorem has_of_lookup {key : Text} {value : Json} (found : fields.lookup key = some value) :
    Has fields key :=
  ⟨value, mem_of_lookup found⟩

theorem has_iff {key : Text} : Has fields key ↔ ∃ value, fields.lookup key = some value := by
  constructor
  · rintro ⟨value, member⟩
    cases found : fields.lookup key with
    | some other => exact ⟨other, rfl⟩
    | none =>
      have unlike := List.lookup_eq_none_iff.mp found (key, value) member
      simp at unlike
  · rintro ⟨value, found⟩
    exact has_of_lookup found

theorem required_isOk_iff {key : Text} :
    (∃ value, required fields key = .ok value) ↔ Has fields key := by
  rw [has_iff, required]
  cases fields.lookup key <;> simp

theorem required_eq_error_iff {key : Text} {fault : Fault} :
    required fields key = .error fault ↔ ¬Has fields key ∧ fault = .unknownKey key := by
  rw [has_iff, required]
  cases fields.lookup key with
  | none => simp [eq_comm]
  | some value => simp

theorem given_of_gives (distinct : (fields.map Prod.fst).Nodup) {key : Text} {value : Json}
    (gives : Gives fields key value) (otherwise : Json) : given fields key otherwise = value := by
  rw [given, lookup_of_mem distinct gives]
  rfl

theorem given_of_missing {key : Text} (missing : ¬Has fields key) (otherwise : Json) :
    given fields key otherwise = otherwise := by
  cases found : fields.lookup key with
  | none =>
    rw [given, found]
    rfl
  | some value => exact absurd (has_of_lookup found) missing

theorem givesOr_given (key : Text) (otherwise : Json) :
    GivesOr fields key otherwise (given fields key otherwise) := by
  cases found : fields.lookup key with
  | none =>
    have missing : ¬Has fields key := by
      rw [has_iff, found]
      simp
    exact .inr ⟨missing, given_of_missing missing otherwise⟩
  | some value =>
    rw [given, found]
    exact .inl (mem_of_lookup found)

theorem of_given_iff (distinct : (fields.map Prod.fst).Nodup) (key : Text) {holds : Json → Prop}
    (blank : holds .null) :
    holds (given fields key .null) ↔ ∀ value, Gives fields key value → holds value := by
  constructor
  · intro held value gives
    rwa [given_of_gives distinct gives] at held
  · intro each
    have either : GivesOr fields key .null (given fields key .null) := givesOr_given key .null
    rcases either with gives | ⟨-, absent⟩
    · exact each _ gives
    · rwa [absent]

theorem exists_given_iff (distinct : (fields.map Prod.fst).Nodup) (key : Text) (holds : Json → Prop)
    (blank : ¬holds .null) :
    holds (given fields key .null) ↔ ∃ value, Gives fields key value ∧ holds value := by
  constructor
  · intro held
    have either : GivesOr fields key .null (given fields key .null) := givesOr_given key .null
    rcases either with gives | ⟨-, absent⟩
    · exact ⟨_, gives, held⟩
    · rw [absent] at held
      exact absurd held blank
  · rintro ⟨value, gives, held⟩
    rwa [given_of_gives distinct gives]

theorem ofFields_isOk_iff :
    (∃ info, ofFields fields = .ok info) ↔
      AttributesReadable (given fields "attributes" .null) ∧ Has fields "serviceName" ∧
        Has fields "serviceType" ∧ HostsReadable (given fields "hostAddresses" .null) := by
  rw [← readAttributes_isOk_iff, ← readHosts_isOk_iff, ← required_isOk_iff, ← required_isOk_iff]
  constructor
  · rintro ⟨info, read⟩
    obtain ⟨attributes, name, kind, hosts, -⟩ := ofFields_eq_ok.mp read
    exact ⟨⟨_, attributes⟩, ⟨_, name⟩, ⟨_, kind⟩, ⟨_, hosts⟩⟩
  · rintro ⟨⟨attributes, attributesRead⟩, ⟨name, nameRead⟩, ⟨kind, kindRead⟩, hosts, hostsRead⟩
    exact ⟨{ name, kind, hosts, attributes, port := given fields "port" (.integer 0),
             network := given fields "network" .null },
      ofFields_eq_ok.mpr ⟨attributesRead, nameRead, kindRead, hostsRead, rfl, rfl⟩⟩

theorem stage_eq_error_iff {α β : Type} {stage : Except Fault α} {next : α → Except Fault β}
    {rest : Prop} {fault : Fault} (onward : ∀ value, next value = .error fault ↔ rest) :
    stage >>= next = .error fault ↔
      stage = .error fault ∨ (∃ value, stage = .ok value) ∧ rest := by
  rw [bind_eq_error]
  simp only [onward, exists_and_right]

theorem ofFields_eq_error_iff {fault : Fault} :
    ofFields fields = .error fault ↔
      AttributesFault (given fields "attributes" .null) fault ∨
        AttributesReadable (given fields "attributes" .null) ∧
          (¬Has fields "serviceName" ∧ fault = .unknownKey "serviceName" ∨
            Has fields "serviceName" ∧
              (¬Has fields "serviceType" ∧ fault = .unknownKey "serviceType" ∨
                Has fields "serviceType" ∧
                  HostsFault (given fields "hostAddresses" .null) fault)) := by
  rw [← readAttributes_isOk_iff, ← readAttributes_eq_error_iff, ← readHosts_eq_error_iff,
    ← required_eq_error_iff, ← required_eq_error_iff, ← required_isOk_iff, ← required_isOk_iff]
  refine stage_eq_error_iff fun attributes => stage_eq_error_iff fun name =>
    stage_eq_error_iff fun kind => ?_
  rw [bind_eq_error]
  constructor
  · rintro (failed | ⟨hosts, -, ended⟩)
    · exact failed
    · cases ended
  · exact .inl

theorem attributesReadable_null : AttributesReadable .null :=
  nofun

theorem hostsReadable_null : HostsReadable .null :=
  nofun

theorem not_attributesFault_null (fault : Fault) : ¬AttributesFault .null fault := by
  intro faulty
  cases faulty with
  | noObject truthy => cases truthy

theorem not_hostsFault_null (fault : Fault) : ¬HostsFault .null fault := by
  intro faulty
  cases faulty with
  | wrongKind truthy => cases truthy
  | item yields => cases yields

theorem faultless_iff (distinct : (fields.map Prod.fst).Nodup) :
    (∃ info, ofFields fields = .ok info) ↔ Faultless fields := by
  rw [ofFields_isOk_iff, of_given_iff distinct _ attributesReadable_null,
    of_given_iff distinct _ hostsReadable_null]
  exact ⟨fun ⟨attributes, name, kind, hosts⟩ => ⟨attributes, name, kind, hosts⟩,
    fun ⟨attributes, name, kind, hosts⟩ => ⟨attributes, name, kind, hosts⟩⟩

theorem firstFault_iff (distinct : (fields.map Prod.fst).Nodup) {fault : Fault} :
    ofFields fields = .error fault ↔ FirstFault fields fault := by
  rw [ofFields_eq_error_iff, of_given_iff distinct _ attributesReadable_null,
    exists_given_iff distinct _ (AttributesFault · fault) (not_attributesFault_null fault),
    exists_given_iff distinct _ (HostsFault · fault) (not_hostsFault_null fault)]
  constructor
  · rintro (⟨value, given, faulty⟩ | ⟨attributes, ⟨missing, rfl⟩ | ⟨name, ⟨missing, rfl⟩ |
      ⟨kind, value, given, faulty⟩⟩⟩)
    · exact .attributes given faulty
    · exact .name attributes missing
    · exact .kind attributes name missing
    · exact .hosts attributes name kind given faulty
  · intro first
    cases first with
    | attributes given faulty => exact .inl ⟨_, given, faulty⟩
    | name attributes missing => exact .inr ⟨attributes, .inl ⟨missing, rfl⟩⟩
    | kind attributes name missing => exact .inr ⟨attributes, .inr ⟨name, .inl ⟨missing, rfl⟩⟩⟩
    | hosts attributes name kind given faulty =>
      exact .inr ⟨attributes, .inr ⟨name, .inr ⟨kind, _, given, faulty⟩⟩⟩

theorem gives_of_required {key : Text} {value : Json} (read : required fields key = .ok value) :
    Gives fields key value := by
  unfold required at read
  split at read
  · rename_i found
    cases read
    exact mem_of_lookup found
  · cases read

theorem takenOver_of_ofFields {info : Info} (read : ofFields fields = .ok info) :
    TakenOver fields info := by
  obtain ⟨-, name, kind, -, port, network⟩ := ofFields_eq_ok.mp read
  refine ⟨gives_of_required name, gives_of_required kind, ?_, ?_⟩
  · rw [← port]
    exact givesOr_given _ _
  · rw [← network]
    exact givesOr_given _ _

end

/-- A description is read exactly where no stage of it fails, and its fault is otherwise that of
the first stage that does, whatever the later ones hold. Name, type, port and network are taken as
they come. -/
theorem ofJson_decided {fields : List (Text × Json)} (distinct : (fields.map Prod.fst).Nodup) :
    ((∃ info, ofJson (.object fields) = .ok info) ↔ Faultless fields) ∧
      (∀ fault, ofJson (.object fields) = .error fault ↔ FirstFault fields fault) ∧
      ∀ info, ofJson (.object fields) = .ok info → TakenOver fields info :=
  ⟨faultless_iff distinct, fun _ => firstFault_iff distinct, fun _ => takenOver_of_ofFields⟩

def faultyFields : List (Text × Json) :=
  [("hostAddresses", .array [.text "192.0.2.01"]), ("serviceType", .text "_test._udp"),
    ("attributes", .object [("empty", .null), ("short", .text "QUI"), ("number", .integer 1)]),
    ("port", .array [])]

theorem ofJson_decided_faulty :
    (faultyFields.map Prod.fst).Nodup ∧ FirstFault faultyFields (.base64 .unfinishedGroup) ∧
      ofJson (.object faultyFields) = .error (.base64 .unfinishedGroup) ∧
      ¬Faultless faultyFields := by
  have distinct : (faultyFields.map Prod.fst).Nodup := by decide
  obtain ⟨read, failed, -⟩ := ofJson_decided distinct
  have ended : ofJson (.object faultyFields) = .error (.base64 .unfinishedGroup) := rfl
  refine ⟨distinct, (failed _).mp ended, ended, fun faultless => ?_⟩
  obtain ⟨info, found⟩ := read.mpr faultless
  rw [ended] at found
  cases found

end ThreadLab.Service.Info
