import Mathlib.Data.List.Perm.Subperm
import ThreadLab.Json.Hash
import ThreadLab.Proofs.Json.Distinct

namespace ThreadLab

section Lookup

variable {β γ : Type}

theorem mem_keys_iff {fields : List (Text × β)} {key : Text} :
    key ∈ fields.map Prod.fst ↔ ∃ value, fields.lookup key = some value := by
  rw [← Option.isSome_iff_exists, List.lookup_isSome_iff, List.mem_map]
  apply exists_congr
  intro field
  rw [beq_iff_eq, eq_comm]

theorem keys_perm {left : List (Text × β)} {right : List (Text × γ)}
    (distinct : (left.map Prod.fst).Nodup) (sizes : left.length = right.length)
    (inside : left.map Prod.fst ⊆ right.map Prod.fst) :
    (left.map Prod.fst).Perm (right.map Prod.fst) := by
  apply (distinct.subperm inside).perm_of_length_le
  rw [List.length_map, List.length_map]
  exact Nat.le_of_eq sizes.symm

theorem length_eq_of_lookup_eq {write : β → γ} {left right : List (Text × β)}
    (distinctLeft : (left.map Prod.fst).Nodup) (distinctRight : (right.map Prod.fst).Nodup)
    (equal : ∀ key, (left.lookup key).map write = (right.lookup key).map write) :
    left.length = right.length := by
  have keys (key : Text) : key ∈ left.map Prod.fst ↔ key ∈ right.map Prod.fst := by
    rw [mem_keys_iff, mem_keys_iff, ← Option.isSome_iff_exists, ← Option.isSome_iff_exists,
      ← Option.isSome_map (f := write), equal key, Option.isSome_map]
  have sizes := ((List.perm_ext_iff_of_nodup distinctLeft distinctRight).mpr keys).length_eq
  rwa [List.length_map, List.length_map] at sizes

theorem lookup_eq_iff (write : β → γ) {left right : List (Text × β)}
    (distinctLeft : (left.map Prod.fst).Nodup) (distinctRight : (right.map Prod.fst).Nodup) :
    (∀ key, (left.lookup key).map write = (right.lookup key).map write) ↔
      left.length = right.length ∧ ∀ field ∈ left,
        ∃ value, right.lookup field.1 = some value ∧ write field.2 = write value := by
  constructor
  · intro equal
    refine ⟨length_eq_of_lookup_eq distinctLeft distinctRight equal, fun field member => ?_⟩
    have here := equal field.1
    rw [lookup_of_mem distinctLeft member, Option.map_some] at here
    obtain ⟨value, found, written⟩ := Option.map_eq_some_iff.mp here.symm
    exact ⟨value, found, written.symm⟩
  · rintro ⟨sizes, found⟩ key
    have inside : left.map Prod.fst ⊆ right.map Prod.fst := by
      intro key member
      obtain ⟨field, held, rfl⟩ := List.mem_map.mp member
      obtain ⟨value, known, -⟩ := found field held
      exact mem_keys_iff.mpr ⟨value, known⟩
    have keys := keys_perm distinctLeft sizes inside
    cases known : left.lookup key with
    | some value =>
      obtain ⟨other, there, written⟩ := found (key, value) (mem_of_lookup known)
      rw [there, Option.map_some, Option.map_some, written]
    | none =>
      cases there : right.lookup key with
      | none => rfl
      | some other =>
        -- As many keys, so a key on the right is none that the left does not have.
        have member := keys.mem_iff.mpr (mem_keys_iff.mpr ⟨other, there⟩)
        obtain ⟨value, here⟩ := mem_keys_iff.mp member
        rw [known] at here
        cases here

end Lookup

namespace Json

/-- A list is its items, and an object what stands under each key. -/
inductive Meaning where
  | nothing
  | number (value : Number)
  | text (value : Text)
  | list (items : List Meaning)
  | record (under : Text → Option Meaning)

mutual

def meaning : Json → Meaning
  | null => .nothing
  | bool value => .number (.ofInt (if value then 1 else 0))
  | integer value => .number (.ofInt value)
  | real value => .number value.number
  | text value => .text value
  | array items => .list (meanings items)
  | object fields => .record (meaningUnder fields)
termination_by structural value => value

def meanings : List Json → List Meaning
  | [] => []
  | item :: items => meaning item :: meanings items
termination_by structural items => items

def meaningUnder : List (Text × Json) → Text → Option Meaning
  | [], _ => none
  | (key, value) :: fields, wanted =>
    if wanted = key then some (meaning value) else meaningUnder fields wanted
termination_by structural fields => fields

end

theorem meaningUnder_eq (fields : List (Text × Json)) (key : Text) :
    meaningUnder fields key = (fields.lookup key).map meaning := by
  induction fields with
  | nil => rfl
  | cons field fields ih =>
    obtain ⟨first, value⟩ := field
    rw [meaningUnder, List.lookup_cons, ih]
    by_cases here : key = first
    · rw [if_pos here, beq_iff_eq.mpr here]
      rfl
    · rw [if_neg here, beq_false_of_ne here]

theorem meaning_object_eq_iff {left right : List (Text × Json)} :
    (object left).meaning = (object right).meaning ↔
      ∀ key, (left.lookup key).map meaning = (right.lookup key).map meaning := by
  rw [meaning, meaning, Meaning.record.injEq, funext_iff]
  simp only [meaningUnder_eq]

theorem number?_eq_some_iff {value : Json} {number : Number} :
    value.number? = some number ↔ value.meaning = .number number := by
  cases value <;> simp [number?, meaning]

theorem sameNumber_iff {left right : Json} {number : Number} (known : left.number? = some number) :
    sameNumber left right = true ↔ left.meaning = right.meaning := by
  rw [number?_eq_some_iff.mp known, eq_comm (b := right.meaning), ← number?_eq_some_iff,
    sameNumber, known]
  cases right.number? with
  | none => simp
  | some other => simp [eq_comm]

mutual

theorem same_iff (left right : Json) (distinctLeft : left.Distinct)
    (distinctRight : right.Distinct) : same left right = true ↔ left.meaning = right.meaning := by
  cases left with
  | null => cases right <;> simp [same, meaning]
  | bool value => exact sameNumber_iff rfl
  | integer value => exact sameNumber_iff rfl
  | real value => exact sameNumber_iff rfl
  | text value => cases right <;> simp [same, meaning]
  | array lefts =>
    cases right with
    | array rights =>
      rw [same, meaning, meaning, Meaning.list.injEq]
      exact sameItems_iff lefts rights distinctLeft distinctRight
    | _ => simp [same, meaning]
  | object lefts =>
    cases right with
    | object rights =>
      have fields := fieldsIn_iff lefts rights distinctLeft.2 distinctRight.2
      rw [meaning_object_eq_iff, lookup_eq_iff meaning distinctLeft.1 distinctRight.1, same,
        Bool.and_eq_true, beq_iff_eq, fields]
    | _ => simp [same, meaning]
termination_by structural left

theorem sameItems_iff (lefts rights : List Json) (distinctLeft : DistinctItems lefts)
    (distinctRight : DistinctItems rights) :
    sameItems lefts rights = true ↔ meanings lefts = meanings rights := by
  cases lefts with
  | nil => cases rights <;> simp [sameItems, meanings]
  | cons left lefts =>
    cases rights with
    | nil => simp [sameItems, meanings]
    | cons right rights =>
      have first := same_iff left right distinctLeft.1 distinctRight.1
      have rest := sameItems_iff lefts rights distinctLeft.2 distinctRight.2
      rw [sameItems, meanings, meanings, List.cons.injEq, Bool.and_eq_true, first, rest]
termination_by structural lefts

theorem fieldsIn_iff (lefts rights : List (Text × Json)) (distinctLeft : DistinctFields lefts)
    (distinctRight : DistinctFields rights) :
    fieldsIn lefts rights = true ↔ ∀ field ∈ lefts,
      ∃ value, rights.lookup field.1 = some value ∧ field.2.meaning = value.meaning := by
  cases lefts with
  | nil => exact ⟨fun _ => nofun, fun _ => rfl⟩
  | cons field lefts =>
    obtain ⟨key, left⟩ := field
    have rest := fieldsIn_iff lefts rights distinctLeft.2 distinctRight
    rw [fieldsIn, Bool.and_eq_true, rest, List.forall_mem_cons]
    apply and_congr_left'
    cases found : rights.lookup key with
    | none => simp
    | some right =>
      have distinct := distinctFields_iff.mp distinctRight _ (mem_of_lookup found)
      have first := same_iff left right distinctLeft.1 distinct
      simp [first]
termination_by structural lefts

end

example : (object [("on", bool true), ("by", null)]).same
    (object [("by", null), ("on", integer 1)]) = true := by decide

def Meaning.slot? : Meaning → Option Slot
  | nothing => some .nothing
  | number value => some (.ofNumber value)
  | text value => some (.ofText value)
  | list _ | record _ => none

theorem slot?_eq (value : Json) : value.slot? = value.meaning.slot? := by
  cases value <;> rfl

theorem slot?_eq_none_iff {value : Json} : value.slot? = none ↔ value.isHashable = false := by
  cases value <;> simp [slot?, isHashable, number?]

end Json

end ThreadLab
