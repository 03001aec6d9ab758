import ThreadLab.Proofs.Json.Meaning
import ThreadLab.Proofs.Service.RoundTrip

namespace ThreadLab.Service

theorem sameAttributes_iff {left right : List (Text × Bytes)}
    (distinctLeft : (left.map Prod.fst).Nodup) (distinctRight : (right.map Prod.fst).Nodup) :
    sameAttributes left right = true ↔ ∀ key, left.lookup key = right.lookup key := by
  have compared := lookup_eq_iff (id : Bytes → Bytes) distinctLeft distinctRight
  simp only [Option.map_id_fun, id] at compared
  rw [compared, sameAttributes, Bool.and_eq_true, List.all_eq_true]
  simp

namespace Info

/-- What a device reports in JSON, where no object has a key twice. -/
def Reported (info : Info) : Prop :=
  ∃ value : Json, value.Distinct ∧ ofJson value = .ok info

structure Alike (left right : Info) : Prop where
  name : left.name.meaning = right.name.meaning
  kind : left.kind.meaning = right.kind.meaning
  hosts : left.hosts = right.hosts
  port : left.port.meaning = right.port.meaning
  network : left.network.meaning = right.network.meaning

/-- Equality of all fields, the attributes in any order. -/
structure Equal (left right : Info) : Prop extends Alike left right where
  attributes : ∀ key, left.attributes.lookup key = right.attributes.lookup key

theorem Equal.refl (info : Info) : Equal info info :=
  ⟨⟨rfl, rfl, rfl, rfl, rfl⟩, fun _ => rfl⟩

theorem Equal.symm {left right : Info} (equal : Equal left right) : Equal right left where
  name := equal.name.symm
  kind := equal.kind.symm
  hosts := equal.hosts.symm
  port := equal.port.symm
  network := equal.network.symm
  attributes := fun key => (equal.attributes key).symm

theorem Equal.trans {first second third : Info} (former : Equal first second)
    (latter : Equal second third) : Equal first third where
  name := former.name.trans latter.name
  kind := former.kind.trans latter.kind
  hosts := former.hosts.trans latter.hosts
  port := former.port.trans latter.port
  network := former.network.trans latter.network
  attributes := fun key => (former.attributes key).trans (latter.attributes key)

theorem Distinct.same_iff {left right : Info} (distinctLeft : left.Distinct)
    (distinctRight : right.Distinct) : left.same right = true ↔ Equal left right := by
  unfold same
  rw [Bool.and_eq_true, Bool.and_eq_true, Bool.and_eq_true, Bool.and_eq_true, Bool.and_eq_true,
    Json.same_iff _ _ distinctLeft.name distinctRight.name,
    Json.same_iff _ _ distinctLeft.kind distinctRight.kind, beq_iff_eq,
    Json.same_iff _ _ distinctLeft.port distinctRight.port,
    Json.same_iff _ _ distinctLeft.network distinctRight.network,
    sameAttributes_iff distinctLeft.attributes distinctRight.attributes]
  constructor
  · rintro ⟨⟨⟨⟨⟨name, kind⟩, hosts⟩, port⟩, network⟩, attributes⟩
    exact ⟨⟨name, kind, hosts, port, network⟩, attributes⟩
  · rintro ⟨⟨name, kind, hosts, port, network⟩, attributes⟩
    exact ⟨⟨⟨⟨⟨name, kind⟩, hosts⟩, port⟩, network⟩, attributes⟩

theorem reported_iff {info : Info} : Reported info ↔ info.Distinct := by
  constructor
  · rintro ⟨value, distinct, read⟩
    exact distinct_of_ofJson distinct read
  · intro distinct
    exact ⟨info.json, distinct_json distinct, ofJson_json info⟩

theorem Reported.same_iff {left right : Info} (reportedLeft : Reported left)
    (reportedRight : Reported right) : left.same right = true ↔ Equal left right :=
  (reported_iff.mp reportedLeft).same_iff (reported_iff.mp reportedRight)

theorem slotOf_congr {left right : Json} (equal : left.meaning = right.meaning) :
    slotOf left = slotOf right := by
  rw [slotOf, slotOf, Json.slot?_eq, Json.slot?_eq, equal]

theorem slotOf_isOk_iff {value : Json} :
    (∃ slot, slotOf value = .ok slot) ↔ value.isHashable = true := by
  rw [← Bool.not_eq_false, ← Json.slot?_eq_none_iff, slotOf]
  cases value.slot? <;> simp

theorem fault_of_slotOf {value : Json} {fault : Fault} (failed : slotOf value = .error fault) :
    fault = .wrongKind := by
  unfold slotOf at failed
  split at failed <;> cases failed
  rfl

theorem Alike.key_eq {left right : Info} (alike : Alike left right) : left.key = right.key := by
  unfold key
  simp only [List.mapM_cons, slotOf_congr alike.name, slotOf_congr alike.kind,
    slotOf_congr alike.port, slotOf_congr alike.network, alike.hosts]

def Hashable (info : Info) : Prop :=
  ∀ field ∈ [info.name, info.kind, info.port, info.network], field.isHashable = true

theorem key_isOk_iff {info : Info} : (∃ key, info.key = .ok key) ↔ info.Hashable := by
  unfold Hashable
  simp only [← slotOf_isOk_iff]
  rw [← mapM_isOk_iff]
  constructor
  · rintro ⟨key, made⟩
    obtain ⟨fields, known, -⟩ := bind_eq_ok.mp made
    exact ⟨fields, known⟩
  · rintro ⟨fields, known⟩
    exact ⟨_, bind_eq_ok.mpr ⟨fields, known, rfl⟩⟩

theorem fault_of_key {info : Info} {fault : Fault} (failed : info.key = .error fault) :
    fault = .wrongKind := by
  rcases bind_eq_error.mp failed with failed | ⟨fields, -, ended⟩
  · obtain ⟨before, field, after, -, -, refused⟩ := mapM_eq_error_iff.mp failed
    exact fault_of_slotOf refused
  · cases ended

theorem key_eq_error_iff {info : Info} {fault : Fault} :
    info.key = .error fault ↔ fault = .wrongKind ∧ ¬info.Hashable := by
  constructor
  · intro failed
    refine ⟨fault_of_key failed, fun hashable => ?_⟩
    obtain ⟨key, made⟩ := key_isOk_iff.mpr hashable
    rw [failed] at made
    cases made
  · rintro ⟨rfl, unhashable⟩
    cases made : info.key with
    | ok key => exact absurd (key_isOk_iff.mp ⟨key, made⟩) unhashable
    | error fault => rw [fault_of_key made]

theorem sameHash_eq_ok_iff {left right : Info} :
    left.sameHash right = .ok true ↔ left.Hashable ∧ left.key = right.key := by
  rw [← key_isOk_iff]
  unfold sameHash
  constructor
  · intro known
    obtain ⟨leftKey, madeLeft, known⟩ := bind_eq_ok.mp known
    obtain ⟨rightKey, madeRight, known⟩ := bind_eq_ok.mp known
    rw [madeLeft, madeRight, of_decide_eq_true (Except.ok.inj known)]
    exact ⟨⟨rightKey, rfl⟩, rfl⟩
  · rintro ⟨⟨key, made⟩, equal⟩
    rw [← equal, made]
    exact congrArg Except.ok (decide_eq_true rfl)

theorem setSize_eq {left right : Info} (hashableLeft : left.Hashable)
    (hashableRight : right.Hashable) (found : left.same right = true → left.key = right.key) :
    left.setSize right = .ok (if left.same right then 1 else 2) := by
  obtain ⟨leftKey, madeLeft⟩ := key_isOk_iff.mpr hashableLeft
  obtain ⟨rightKey, madeRight⟩ := key_isOk_iff.mpr hashableRight
  have hashes : left.sameHash right = .ok (decide (leftKey = rightKey)) := by
    rw [sameHash, madeLeft, madeRight]
    rfl
  rw [madeLeft, madeRight, Except.ok.injEq] at found
  rw [setSize, hashes]
  cases same : left.same right with
  | false => simp [Bind.bind, Except.bind, Pure.pure, Except.pure]
  | true => simp [found same, Bind.bind, Except.bind, Pure.pure, Except.pure]

/-- Equality is an equivalence on all fields, a service with a list or an object for a field is in
no set, and a set of two others is as large as their equality has it, whatever their keys. -/
theorem set_laws {first second third : Info} (reportedFirst : Reported first)
    (reportedSecond : Reported second) (reportedThird : Reported third) :
    first.same first = true ∧ first.same second = second.same first ∧
      (first.same second = true → second.same third = true → first.same third = true) ∧
      (first.same second = true ↔ Equal first second) ∧
      (∀ fault, first.key = .error fault ↔ fault = .wrongKind ∧ ¬first.Hashable) ∧
      (first.Hashable → second.Hashable →
        (first.same second = true → first.sameHash second = .ok true) ∧
          (Alike first second → first.sameHash second = .ok true) ∧
          first.setSize second = .ok (if first.same second then 1 else 2)) := by
  have forth := reportedFirst.same_iff reportedSecond
  have back := reportedSecond.same_iff reportedFirst
  have alike (similar : Alike first second) (hashable : first.Hashable) :=
    sameHash_eq_ok_iff.mpr ⟨hashable, similar.key_eq⟩
  refine ⟨?_, ?_, ?_, forth, fun fault => key_eq_error_iff, fun hashableFirst hashableSecond => ?_⟩
  · exact (reportedFirst.same_iff reportedFirst).mpr (Equal.refl first)
  · rw [Bool.eq_iff_iff, forth, back]
    exact ⟨Equal.symm, Equal.symm⟩
  · intro former latter
    rw [reportedSecond.same_iff reportedThird] at latter
    exact (reportedFirst.same_iff reportedThird).mpr ((forth.mp former).trans latter)
  · refine ⟨fun same => ?_, fun similar => alike similar hashableFirst, ?_⟩
    · exact alike (forth.mp same).toAlike hashableFirst
    · exact setSize_eq hashableFirst hashableSecond fun same => (forth.mp same).key_eq

def printer (port : Json) (attributes : List (Text × Bytes)) : Info where
  name := .text "printer"
  kind := .text "_ipp._tcp"
  port := port
  attributes := attributes

theorem set_laws_ports :
    let onTrue := printer (.bool true) [("rp", [104, 105]), ("note", [])]
    let onOne := printer (.integer 1) [("note", []), ("rp", [104, 105])]
    let onMore := printer (.integer 0x2000000000000000) [("note", []), ("rp", [104, 105])]
    Reported onTrue ∧ Reported onOne ∧ Reported onMore ∧
      onTrue.same onOne = true ∧ onOne.same onTrue = true ∧ onTrue.setSize onOne = .ok 1 ∧
      onOne.sameHash onMore = .ok true ∧ onOne.setSize onMore = .ok 2 := by
  intro onTrue onOne onMore
  have reportedTrue : Reported onTrue :=
    reported_iff.mpr ⟨trivial, trivial, trivial, trivial, by decide⟩
  have reportedOne : Reported onOne :=
    reported_iff.mpr ⟨trivial, trivial, trivial, trivial, by decide⟩
  have reportedMore : Reported onMore :=
    reported_iff.mpr ⟨trivial, trivial, trivial, trivial, by decide⟩
  have hashableTrue : onTrue.Hashable := key_isOk_iff.mp ⟨_, rfl⟩
  have hashableOne : onOne.Hashable := key_isOk_iff.mp ⟨_, rfl⟩
  have hashableMore : onMore.Hashable := key_isOk_iff.mp ⟨_, rfl⟩
  obtain ⟨-, swapped, -, -, -, former⟩ := set_laws reportedTrue reportedOne reportedMore
  obtain ⟨-, -, -, -, -, latter⟩ := set_laws reportedOne reportedMore reportedTrue
  obtain ⟨-, -, one⟩ := former hashableTrue hashableOne
  obtain ⟨-, -, two⟩ := latter hashableOne hashableMore
  have same : onTrue.same onOne = true := by decide
  have different : onOne.same onMore = false := by decide
  rw [same] at one swapped
  rw [different] at two
  exact ⟨reportedTrue, reportedOne, reportedMore, same, swapped.symm, one, rfl, two⟩

end Info

end ThreadLab.Service
