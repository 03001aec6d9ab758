import ThreadLab.Proofs.FirstMatch
import ThreadLab.Proofs.Rows
import ThreadLab.Proofs.Session.Errand
import ThreadLab.Proofs.Session.OfData

namespace ThreadLab

variable {α : Type}

def Outlook.named (outlook : Outlook) (name : Text) : List Event :=
  outlook.events.filter (·.name = name)

theorem Act.exists_firstMatch (name : Text) (accepts : Json → Except Fault Bool)
    (events : List Event) :
    ∃ tested left, FirstMatch (fun event => accepts event.data) (events.filter (·.name = name)) tested
      (takeEvent name accepts events).1 left := by
  induction events with
  | nil => exact ⟨[], [], .absent (by simp)⟩
  | cons event events ih =>
    rcases ih with ⟨tested, left, search⟩
    rw [takeEvent]
    by_cases same : event.name = name
    · have kept : (event :: events).filter (·.name = name) =
          event :: events.filter (·.name = name) := by simp [same]
      rw [if_pos same, kept]
      rcases answer : accepts event.data with fault | _ | _
      · exact ⟨[event], _, .failed_head (by exact answer) _⟩
      · exact ⟨_, _, search.cons answer⟩
      · exact ⟨[event], _, .found_head (by exact answer) _⟩
    · have dropped : (event :: events).filter (·.name = name) =
          events.filter (·.name = name) := by simp [same]
      rw [if_neg same, dropped]
      exact ⟨_, _, search⟩

theorem lateAs_error_bind (late : Text → Fault) (fault : Fault) (convert : Json → Except Fault α) :
    (lateAs late (.error fault) >>= convert) = lateAs late (.error fault) := by
  cases fault with
  | snippet kind label text => cases kind <;> rfl
  | _ => rfl

/-- What a wait gives its caller for what was found in the queue. -/
def Outlook.concludes (outlook : Outlook) (label : Text) (convert : Json → Except Fault α)
    (late : Text → Fault) (found : Except Fault (Option Event)) : Except Fault α :=
  match outlook.fault with
  | some (fault, text) => lateAs late (.error (.snippet fault label text))
  | none =>
    match found with
    | .error fault => lateAs late (.error fault)
    | .ok (some event) => convert event.data
    | .ok none => .error (late (labelled label outlook.timeoutText))

/-- The first event of a name that is accepted decides what a wait ends in. -/
def Outlook.Picks (outlook : Outlook) (label name : Text) (accepts : Json → Except Fault Bool)
    (convert : Json → Except Fault α) (late : Text → Fault) (result : Except Fault α) : Prop :=
  ∃ tested found left, FirstMatch (fun event => accepts event.data) (outlook.named name) tested found
    left ∧ result = outlook.concludes label convert late found

theorem OfData.lateAs_eq {result : Except Fault α} (reads : OfData result) (late : Text → Fault) :
    lateAs late result = result := by
  unfold lateAs
  split
  · cases reads _ rfl
  · rfl

theorem Outlook.picks_meets (outlook : Outlook) (label name : Text)
    (accepts : Json → Except Fault Bool) (convert : Json → Except Fault α) (late : Text → Fault) :
    outlook.Picks label name accepts convert late
      (lateAs late (outlook.meets label name accepts) >>= convert) := by
  rcases Act.exists_firstMatch name accepts outlook.events with ⟨tested, left, search⟩
  refine ⟨tested, _, left, search, ?_⟩
  unfold meets concludes
  cases outlook.fault with
  | some scripted => exact lateAs_error_bind late _ convert
  | none =>
    rcases (Act.takeEvent name accepts outlook.events).1 with fault | _ | event
    · exact lateAs_error_bind late fault convert
    · rfl
    · rfl

theorem Outlook.concludes_of_search {outlook : Outlook} {name : Text}
    {accepts : Json → Except Fault Bool} {tested left : List Event}
    {found : Except Fault (Option Event)}
    (search : FirstMatch (fun event => accepts event.data) (outlook.named name) tested found left)
    (label : Text) (convert : Json → Except Fault α) (late : Text → Fault) :
    lateAs late (outlook.meets label name accepts) >>= convert =
      outlook.concludes label convert late found := by
  obtain ⟨_, other, _, search', same⟩ := outlook.picks_meets label name accepts convert late
  rw [same, search'.result_unique search]

namespace Json

theorem same_integer_iff {value : Json} {number : Int} :
    value.same (.integer number) = true ↔ value.number? = some (.ofInt number) := by
  cases value <;> simp [same, sameNumber, number?]

theorem integer_same_iff {value : Json} {number : Int} :
    (integer number).same value = true ↔ value.number? = some (.ofInt number) := by
  cases value <;> simp [same, sameNumber, number?, eq_comm]

end Json

namespace Session

theorem ofJson_of_number {value : Json} {number : Int} (known : value.number? = some (.ofInt number)) :
    (∃ role : DeviceRole, role.number = number ∧ Vocabulary.ofJson value = .ok role) ∨
      (∀ role : DeviceRole, role.number ≠ number) ∧
        Vocabulary.ofJson value = (.error ⟨value, "DeviceRole"⟩ : Except _ DeviceRole) := by
  unfold Vocabulary.ofJson
  cases found : (Vocabulary.members : List DeviceRole).find?
      fun member => (Vocabulary.code member).json.same value with
  | some role =>
    have accepted := List.find?_some found
    have same : value.number? = some (.ofInt role.number) := Json.integer_same_iff.mp accepted
    rw [known] at same
    exact .inl ⟨role, Number.ofInt_inj (Option.some.inj same.symm), rfl⟩
  | none =>
    refine .inr ⟨?_, rfl⟩
    rintro role rfl
    have member : role ∈ (Vocabulary.members : List DeviceRole) := by cases role <;> decide
    have different := List.find?_eq_none.mp found role member
    exact different (Json.integer_same_iff.mpr known)

theorem reportsRole_iff {roles : List Int} {data : Json} :
    reportsRole roles data = .ok true ↔
      ∃ value, Event.field data "deviceRole" = .ok value ∧
        ∃ number ∈ roles, value.number? = some (.ofInt number) := by
  unfold reportsRole
  rw [bind_eq_ok]
  have any : ∀ value : Json, (pure (roles.any fun role => value.same (.integer role)) :
      Except Fault Bool) = .ok true ↔ ∃ number ∈ roles, value.number? = some (.ofInt number) := by
    intro value
    simp [pure, Except.pure, Json.same_integer_iff]
  simp only [any]
  rfl

theorem readRole_of_reported {roles : List Int} {data : Json}
    (reported : reportsRole roles data = .ok true) :
    ∃ value, Event.field data "deviceRole" = .ok value ∧
      ∃ number ∈ roles, value.number? = some (.ofInt number) ∧
        ((∃ role : DeviceRole, role.number = number ∧ readRole data = .ok role) ∨
          (∀ role : DeviceRole, role.number ≠ number) ∧
            readRole data = .error (.unknownValue ⟨value, "DeviceRole"⟩)) := by
  rcases reportsRole_iff.mp reported with ⟨value, found, number, member, known⟩
  refine ⟨value, found, number, member, known, ?_⟩
  have read : readRole data = (Vocabulary.ofJson value).mapError .unknownValue := by
    show (Event.field data "deviceRole" >>= _) = _
    rw [found]
    rfl
  rcases ofJson_of_number known with ⟨role, same, known⟩ | ⟨none, unknown⟩
  · left
    refine ⟨role, same, ?_⟩
    rw [read, known]
    rfl
  · right
    refine ⟨none, ?_⟩
    rw [read, unknown]
    rfl

def Grants (lab : Lab) (names : List Text) : Prop :=
  ∀ name ∈ names, lab.script.requestFaults.lookup name = none

end Session

end ThreadLab
