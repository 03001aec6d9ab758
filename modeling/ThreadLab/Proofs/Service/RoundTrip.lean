import ThreadLab.Proofs.Base64
import ThreadLab.Proofs.Ip.Address
import ThreadLab.Proofs.Json.Distinct
import ThreadLab.Proofs.Rows
import ThreadLab.Service.Equality

namespace ThreadLab.Service.Info

theorem readAttribute_encode (bytes : Bytes) :
    readAttribute (.text (Base64.encode bytes)) = .ok bytes := by
  rw [readAttribute, Base64.decode_encode]
  rfl

theorem readAttributeFields_encode (entries : List (Text × Bytes)) :
    readAttributeFields (entries.map fun (key, value) => (key, .text (Base64.encode value))) =
      .ok entries := by
  induction entries with
  | nil => rfl
  | cons entry entries ih =>
    obtain ⟨key, bytes⟩ := entry
    simp only [List.map_cons, readAttributeFields, readAttribute_encode, ih, Bind.bind, Except.bind,
      Pure.pure, Except.pure]

theorem readAttributes_attributesJson (entries : List (Text × Bytes)) :
    readAttributes (attributesJson entries) = .ok entries := by
  cases entries with
  | nil => rfl
  | cons entry entries =>
    have truthy : (attributesJson (entry :: entries)).isTruthy = true := rfl
    unfold readAttributes
    rw [if_pos truthy]
    exact readAttributeFields_encode (entry :: entries)

theorem readHost_text (address : Ip.Address) : readHost (.text address.text) = .ok address := by
  have back : Ip.Address.ofJson? (.text address.text) = some address :=
    Ip.Address.ofText?_text address
  rw [readHost, back]

theorem readHosts_texts (hosts : List Ip.Address) :
    readHosts (.array (hosts.map (.text ·.text))) = .ok hosts := by
  cases hosts with
  | nil => rfl
  | cons host hosts =>
    have truthy : (Json.array ((host :: hosts).map (.text ·.text))).isTruthy = true := rfl
    unfold readHosts
    rw [if_pos truthy]
    exact mapM_map_pure fun address _ => readHost_text address

theorem given_networkFields (network : Json) :
    given (networkFields network) "network" .null = network := by
  cases network <;> rfl

/-- Everything that is read of a service, where nothing of it is faulty. -/
theorem ofFields_eq_ok {fields : List (Text × Json)} {info : Info} :
    ofFields fields = .ok info ↔
      readAttributes (given fields "attributes" .null) = .ok info.attributes ∧
        required fields "serviceName" = .ok info.name ∧
        required fields "serviceType" = .ok info.kind ∧
        readHosts (given fields "hostAddresses" .null) = .ok info.hosts ∧
        given fields "port" (.integer 0) = info.port ∧
        given fields "network" .null = info.network := by
  unfold ofFields
  constructor
  · intro read
    obtain ⟨attributes, attributesRead, read⟩ := bind_eq_ok.mp read
    obtain ⟨name, nameRead, read⟩ := bind_eq_ok.mp read
    obtain ⟨kind, kindRead, read⟩ := bind_eq_ok.mp read
    obtain ⟨hosts, hostsRead, read⟩ := bind_eq_ok.mp read
    cases read
    exact ⟨attributesRead, nameRead, kindRead, hostsRead, rfl, rfl⟩
  · rintro ⟨attributes, name, kind, hosts, port, network⟩
    rw [attributes, name, kind, hosts, port, network]
    rfl

theorem ofJson_json (info : Info) : ofJson info.json = .ok info :=
  ofFields_eq_ok.mpr ⟨readAttributes_attributesJson info.attributes, rfl, rfl,
    readHosts_texts info.hosts, rfl, given_networkFields info.network⟩

/-- No key stands twice, neither among the attributes nor in what is taken as it comes. -/
structure Distinct (info : Info) : Prop where
  name : info.name.Distinct
  kind : info.kind.Distinct
  port : info.port.Distinct
  network : info.network.Distinct
  attributes : (info.attributes.map Prod.fst).Nodup

theorem sameAttributes_self {entries : List (Text × Bytes)}
    (distinct : (entries.map Prod.fst).Nodup) : sameAttributes entries entries = true := by
  unfold sameAttributes
  rw [beq_self_eq_true, Bool.true_and, List.all_eq_true]
  intro entry member
  exact beq_iff_eq.mpr (lookup_of_mem distinct member)

theorem same_self {info : Info} (distinct : info.Distinct) : info.same info = true := by
  unfold same
  rw [Json.same_self info.name distinct.name, Json.same_self info.kind distinct.kind,
    Json.same_self info.port distinct.port, Json.same_self info.network distinct.network,
    sameAttributes_self distinct.attributes, beq_self_eq_true]
  rfl

theorem keys_of_readAttributeFields {fields : List (Text × Json)} {entries : List (Text × Bytes)}
    (read : readAttributeFields fields = .ok entries) :
    entries.map Prod.fst = fields.map Prod.fst := by
  induction fields generalizing entries with
  | nil =>
    cases read
    rfl
  | cons field fields ih =>
    obtain ⟨key, value⟩ := field
    obtain ⟨bytes, -, read⟩ := bind_eq_ok.mp read
    obtain ⟨rest, others, read⟩ := bind_eq_ok.mp read
    cases read
    rw [List.map_cons, List.map_cons, ih others]

theorem nodup_of_readAttributes {value : Json} {entries : List (Text × Bytes)}
    (distinct : value.Distinct) (read : readAttributes value = .ok entries) :
    (entries.map Prod.fst).Nodup := by
  unfold readAttributes at read
  split at read
  · cases value with
    | object fields =>
      rw [keys_of_readAttributeFields read]
      exact distinct.1
    | _ => cases read
  · cases read
    exact List.nodup_nil

theorem distinct_given {fields : List (Text × Json)} (distinct : Json.DistinctFields fields)
    (key : Text) {otherwise : Json} (fallback : otherwise.Distinct) :
    (given fields key otherwise).Distinct := by
  unfold given
  cases found : fields.lookup key with
  | none => exact fallback
  | some value => exact Json.distinctFields_iff.mp distinct (key, value) (mem_of_lookup found)

theorem distinct_required {fields : List (Text × Json)} (distinct : Json.DistinctFields fields)
    {key : Text} {value : Json} (read : required fields key = .ok value) : value.Distinct := by
  unfold required at read
  split at read
  · rename_i found
    cases read
    exact Json.distinctFields_iff.mp distinct (key, value) (mem_of_lookup found)
  · cases read

theorem distinct_of_ofJson {value : Json} {info : Info} (distinct : value.Distinct)
    (read : ofJson value = .ok info) : info.Distinct := by
  cases value with
  | object fields =>
    obtain ⟨attributes, name, kind, -, port, network⟩ := ofFields_eq_ok.mp read
    refine ⟨distinct_required distinct.2 name, distinct_required distinct.2 kind, ?_, ?_, ?_⟩
    · rw [← port]
      exact distinct_given distinct.2 "port" trivial
    · rw [← network]
      exact distinct_given distinct.2 "network" trivial
    · have absent : Json.null.Distinct := trivial
      exact nodup_of_readAttributes (distinct_given distinct.2 "attributes" absent) attributes
  | _ => cases read

theorem distinct_json {info : Info} (distinct : info.Distinct) : info.json.Distinct := by
  have hosts : (Json.array (info.hosts.map (.text ·.text))).Distinct := by
    apply Json.distinctItems_iff.mpr
    intro item member
    obtain ⟨address, -, rfl⟩ := List.mem_map.mp member
    trivial
  have attributes : (attributesJson info.attributes).Distinct := by
    refine ⟨?_, Json.distinctFields_iff.mpr fun field member => ?_⟩
    · rw [List.map_map]
      exact distinct.attributes
    · obtain ⟨entry, -, rfl⟩ := List.mem_map.mp member
      trivial
  have short : (["serviceName", "serviceType", "hostAddresses", "port", "attributes"] :
    List Text).Nodup := by decide
  have long : (["serviceName", "serviceType", "hostAddresses", "port", "attributes", "network"] :
    List Text).Nodup := by decide
  have written := distinct.network
  unfold json networkFields
  split
  · exact ⟨short, distinct.name, distinct.kind, hosts, distinct.port, attributes, trivial⟩
  · exact ⟨long, distinct.name, distinct.kind, hosts, distinct.port, attributes, written, trivial⟩

/-- A service is read back with every address of the same version and scope; what was read from
any value, however it was spelled there, is left as it is by writing and reading it again. -/
theorem json_normal :
    (∀ info : Info, ofJson info.json = .ok info ∧
      (info.Distinct → info.json.Distinct ∧ info.same info = true)) ∧
    ∀ (value : Json) (info : Info), value.Distinct → ofJson value = .ok info →
      ofJson info.json = .ok info ∧ info.json.Distinct ∧ info.same info = true ∧
        (ofJson info.json).map json = .ok info.json := by
  constructor
  · intro info
    exact ⟨ofJson_json info, fun distinct => ⟨distinct_json distinct, same_self distinct⟩⟩
  · intro value info distinct read
    have well := distinct_of_ofJson distinct read
    refine ⟨ofJson_json info, distinct_json well, same_self well, ?_⟩
    rw [ofJson_json]
    rfl

def laxService : Json :=
  .object [("attributes", .object [("kept", .text "a Gk=!"), ("empty", .null)]),
    ("serviceType", .text "_test._udp"), ("serviceName", .integer 7),
    ("hostAddresses", .array [.integer 16909060, .text "FE80:0:0::0001%wlan0"])]

def readService : Info where
  name := .integer 7
  kind := .text "_test._udp"
  hosts := [.v4 ⟨16909060, by decide⟩,
    .v6 ⟨0xfe800000000000000000000000000001, some ⟨"wlan0", by decide, by decide, by decide⟩, by decide⟩]
  attributes := [("kept", [104, 105]), ("empty", [])]

theorem json_normal_lax :
    laxService.Distinct ∧ ofJson laxService = .ok readService ∧
      ofJson readService.json = .ok readService ∧ readService.same readService = true := by
  have distinct : laxService.Distinct :=
    ⟨by decide, ⟨by decide, trivial, trivial, trivial⟩, trivial, trivial,
      ⟨trivial, trivial, trivial⟩, trivial⟩
  have read : ofJson laxService = .ok readService := rfl
  obtain ⟨back, -, same, -⟩ := json_normal.2 laxService readService distinct read
  exact ⟨distinct, read, back, same⟩

end ThreadLab.Service.Info
