import ThreadLab.Json.Equality

namespace ThreadLab

theorem lookup_of_mem {β : Type} {fields : List (Text × β)} (distinct : (fields.map Prod.fst).Nodup)
    {key : Text} {value : β} (member : (key, value) ∈ fields) : fields.lookup key = some value := by
  obtain ⟨before, after, rfl⟩ := List.append_of_mem member
  rw [List.lookup_eq_some_iff]
  refine ⟨before, after, rfl, fun field inside => ?_⟩
  rw [bne_iff_ne]
  rintro rfl
  rw [List.map_append, List.map_cons, List.nodup_append] at distinct
  exact distinct.2.2 field.1 (List.mem_map_of_mem inside) field.1 (by simp) rfl

theorem mem_of_lookup {β : Type} {fields : List (Text × β)} {key : Text} {value : β}
    (found : fields.lookup key = some value) : (key, value) ∈ fields := by
  obtain ⟨before, after, rfl, -⟩ := List.lookup_eq_some_iff.mp found
  simp

namespace Json

mutual

/-- No object in the value has a key twice. -/
def Distinct : Json → Prop
  | array items => DistinctItems items
  | object fields => (fields.map Prod.fst).Nodup ∧ DistinctFields fields
  | _ => True
termination_by structural value => value

def DistinctItems : List Json → Prop
  | [] => True
  | item :: items => Distinct item ∧ DistinctItems items
termination_by structural items => items

def DistinctFields : List (Text × Json) → Prop
  | [] => True
  | (_, value) :: fields => Distinct value ∧ DistinctFields fields
termination_by structural fields => fields

end

theorem distinctItems_iff {items : List Json} :
    DistinctItems items ↔ ∀ item ∈ items, item.Distinct := by
  induction items with
  | nil => simp [DistinctItems]
  | cons first items ih => simp [DistinctItems, ih]

theorem distinctFields_iff {fields : List (Text × Json)} :
    DistinctFields fields ↔ ∀ field ∈ fields, field.2.Distinct := by
  induction fields with
  | nil => simp [DistinctFields]
  | cons first fields ih => simp [DistinctFields, ih]

theorem sameNumber_self {value : Json} (numeric : value.number?.isSome) :
    sameNumber value value = true := by
  obtain ⟨number, known⟩ := Option.isSome_iff_exists.mp numeric
  rw [sameNumber, known]
  exact decide_eq_true rfl

mutual

theorem same_self (value : Json) (distinct : value.Distinct) : same value value = true := by
  cases value with
  | null => rfl
  | bool value => exact @sameNumber_self (bool value) rfl
  | integer value => exact @sameNumber_self (integer value) rfl
  | real value => exact @sameNumber_self (real value) rfl
  | text value => exact beq_self_eq_true value
  | array items => exact sameItems_self items distinct
  | object fields =>
    have all := fieldsIn_self fields fields distinct.2 fun _ _ => lookup_of_mem distinct.1
    rw [same, all, beq_self_eq_true, Bool.and_true]
termination_by structural value

theorem sameItems_self (items : List Json) (distinct : DistinctItems items) :
    sameItems items items = true := by
  cases items with
  | nil => rfl
  | cons item items =>
    rw [sameItems, same_self item distinct.1, sameItems_self items distinct.2, Bool.and_true]
termination_by structural items

theorem fieldsIn_self (fields all : List (Text × Json)) (distinct : DistinctFields fields)
    (found : ∀ key value, (key, value) ∈ fields → all.lookup key = some value) :
    fieldsIn fields all = true := by
  cases fields with
  | nil => rfl
  | cons field fields =>
    obtain ⟨key, value⟩ := field
    have here := found key value (by simp)
    have rest := fieldsIn_self fields all distinct.2 fun other otherValue member =>
      found other otherValue (List.mem_cons_of_mem _ member)
    rw [fieldsIn, here]
    dsimp only
    rw [same_self value distinct.1, rest, Bool.and_true]
termination_by structural fields

end

end Json

end ThreadLab
