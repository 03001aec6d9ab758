import ThreadLab.Proofs.Session.FirstEvent
import ThreadLab.Trial.Lifecycle

namespace ThreadLab.Trial.Lifecycle

def joinRequest : Text := "threadJoinRandomNetwork"

def watchRequest : Text := "threadRegisterStateCallback"

def unwatchRequest : Text := "threadUnregisterStateCallback"

def Active (role : DeviceRole) : Prop :=
  role = .child ∨ role = .router ∨ role = .leader

def ReportsActive (event : Event) : Prop :=
  ∃ value role, Event.field event.data "deviceRole" = .ok value ∧ Active role ∧
    value.number? = some (.ofInt role.number)

def ReportsOther (event : Event) : Prop :=
  ∃ value, Event.field event.data "deviceRole" = .ok value ∧
    ∀ role, Active role → value.number? ≠ some (.ofInt role.number)

def roleEvents (outlook : Outlook) : List Event :=
  outlook.named "onDeviceRoleChanged"

/-- The role is reached before any event that cannot be read. -/
structure Reaches (outlook : Outlook) : Prop where
  served : outlook.fault = none
  active : ∃ before event after, roleEvents outlook = before ++ event :: after ∧
    (∀ other ∈ before, ReportsOther other) ∧ ReportsActive event

inductive WaitFault (outlook : Outlook) (label : Text) : Fault → Prop
  | late {text : Text} (late : outlook.fault = some (.timeout, text)) :
    WaitFault outlook label (.expired (.role Settings.joinTimeout (labelled label text)))
  | broken {kind : SnippetFault} {text : Text} (broken : outlook.fault = some (kind, text))
    (other : kind ≠ .timeout) : WaitFault outlook label (.snippet kind label text)
  | malformed {before after : List Event} {event : Event} {fault : Fault}
    (served : outlook.fault = none) (split : roleEvents outlook = before ++ event :: after)
    (others : ∀ other ∈ before, ReportsOther other)
    (malformed : Event.field event.data "deviceRole" = .error fault) : WaitFault outlook label fault
  | silent (served : outlook.fault = none)
    (others : ∀ event ∈ roleEvents outlook, ReportsOther event) :
    WaitFault outlook label
      (.expired (.role Settings.joinTimeout (labelled label outlook.timeoutText)))

section

variable (setup : Setup) (lab : Lab)

def deviceLabel : Text :=
  (lab.device setup.device).label

def roleOutlook : Outlook :=
  (lab.nextHandler setup.device).outlook

structure Joins : Prop where
  asked : lab.Grants joinRequest
  watched : lab.Grants watchRequest
  returned : lab.Grants unwatchRequest
  reaches : Reaches (roleOutlook setup lab)

/-- Why the device does not join. A callback that cannot be given back counts before the wait. -/
inductive JoinFault : Fault → Prop
  | unasked {text : Text} (refused : lab.Refuses joinRequest text) :
    JoinFault (.snippet .request (deviceLabel setup lab) text)
  | unwatched {text : Text} (asked : lab.Grants joinRequest)
    (refused : lab.Refuses watchRequest text) :
    JoinFault (.snippet .request (deviceLabel setup lab) text)
  | unreturned {text : Text} (asked : lab.Grants joinRequest) (watched : lab.Grants watchRequest)
    (refused : lab.Refuses unwatchRequest text) :
    JoinFault (.snippet .request (deviceLabel setup lab) text)
  | unreached {fault : Fault} (asked : lab.Grants joinRequest) (watched : lab.Grants watchRequest)
    (returned : lab.Grants unwatchRequest)
    (faulty : WaitFault (roleOutlook setup lab) (deviceLabel setup lab) fault) : JoinFault fault

def joinCall : Call :=
  .request (lab.device setup.device).serial joinRequest []

def roleWatch : Session.Watch DeviceRole :=
  Session.Errand.roleWatch setup.device activeRoles Settings.joinTimeout

def asked : Lab :=
  lab.record (joinCall setup lab)

end

theorem mem_activeRoles {number : Int} :
    number ∈ activeRoles ↔ ∃ role, Active role ∧ role.number = number := by
  simp [activeRoles, Active, or_and_right, exists_or, eq_comm]

theorem reportsRole_eq_true_iff {event : Event} :
    Session.reportsRole activeRoles event.data = .ok true ↔ ReportsActive event := by
  rw [Session.reportsRole_iff]
  constructor
  · rintro ⟨value, found, number, member, known⟩
    obtain ⟨role, active, rfl⟩ := mem_activeRoles.mp member
    exact ⟨value, role, found, active, known⟩
  · rintro ⟨value, role, found, active, known⟩
    exact ⟨value, found, role.number, mem_activeRoles.mpr ⟨role, active, rfl⟩, known⟩

theorem reportsRole_eq_error_iff {event : Event} {fault : Fault} :
    Session.reportsRole activeRoles event.data = .error fault ↔
      Event.field event.data "deviceRole" = .error fault := by
  unfold Session.reportsRole
  rw [bind_eq_error]
  constructor
  · rintro (failed | ⟨value, -, ended⟩)
    · exact failed
    · cases ended
  · exact .inl

theorem reportsRole_eq_false_iff {event : Event} :
    Session.reportsRole activeRoles event.data = .ok false ↔ ReportsOther event := by
  cases answer : Session.reportsRole activeRoles event.data with
  | error fault =>
    have malformed := reportsRole_eq_error_iff.mp answer
    refine iff_of_false nofun ?_
    rintro ⟨value, found, -⟩
    cases malformed.symm.trans found
  | ok accepted =>
    obtain ⟨value, found, -⟩ := bind_eq_ok.mp answer
    have active : accepted = true ↔ ReportsActive event := by
      rw [← reportsRole_eq_true_iff, answer, Except.ok.injEq]
    rw [Except.ok.injEq, ← Bool.not_eq_true, active]
    constructor
    · intro inactive
      exact ⟨value, found, fun role member number => inactive ⟨value, role, found, member, number⟩⟩
    · rintro ⟨_, same, none⟩ ⟨_, role, same', member, number⟩
      cases same.symm.trans same'
      exact none role member number

theorem readRole_of_active {event : Event} (active : ReportsActive event) :
    ∃ role, Session.readRole event.data = .ok role := by
  obtain ⟨value, -, number, member, -, ⟨role, -, read⟩ | ⟨unknown, -⟩⟩ :=
    Session.readRole_of_reported (reportsRole_eq_true_iff.mpr active)
  · exact ⟨role, read⟩
  · obtain ⟨role, -, same⟩ := mem_activeRoles.mp member
    exact absurd same (unknown role)

section

variable {setup : Setup} {lab : Lab}

def roleWaited (setup : Setup) (lab : Lab) : Except Fault DeviceRole :=
  (roleWatch setup).waited lab >>= (roleWatch setup).convert

theorem roleWaited_of_search {tested left : List Event} {found : Except Fault (Option Event)}
    (search : FirstMatch (fun event => Session.reportsRole activeRoles event.data)
      (roleEvents (roleOutlook setup lab)) tested found left) :
    roleWaited setup lab = (roleOutlook setup lab).concludes (deviceLabel setup lab)
      Session.readRole (fun text => .expired (.role Settings.joinTimeout text)) found :=
  Outlook.concludes_of_search search _ _ _

theorem roleWaited_of_reaches (reaches : Reaches (roleOutlook setup lab)) :
    ∃ role, roleWaited setup lab = .ok role := by
  obtain ⟨before, event, after, split, others, active⟩ := reaches.active
  have search : FirstMatch (fun event => Session.reportsRole activeRoles event.data)
      (before ++ event :: after) (before ++ [event]) (.ok (some event)) after :=
    .found (fun other member => reportsRole_eq_false_iff.mpr (others other member))
      (reportsRole_eq_true_iff.mpr active)
  rw [← split] at search
  obtain ⟨role, read⟩ := readRole_of_active active
  refine ⟨role, ?_⟩
  rw [roleWaited_of_search search, Outlook.concludes, reaches.served]
  exact read

theorem lateAs_malformed {event : Event} {fault : Fault}
    (malformed : Event.field event.data "deviceRole" = .error fault) (late : Text → Fault) :
    lateAs late (.error fault : Except Fault DeviceRole) = .error fault :=
  (ofData_error (ofData_field event.data _ fault malformed)).lateAs_eq late

theorem roleWaited_of_fault {fault : Fault}
    (faulty : WaitFault (roleOutlook setup lab) (deviceLabel setup lab) fault) :
    roleWaited setup lab = .error fault := by
  obtain ⟨tested, left, search⟩ := Act.exists_firstMatch "onDeviceRoleChanged"
    (Session.reportsRole activeRoles) (roleOutlook setup lab).events
  have waited := roleWaited_of_search search
  cases faulty with
  | late late =>
    unfold Outlook.concludes at waited
    rw [late] at waited
    exact waited
  | @broken kind text broken other =>
    unfold Outlook.concludes at waited
    rw [broken] at waited
    cases kind with
    | timeout => exact absurd rfl other
    | _ => exact waited
  | @malformed before after event _ served split others malformed =>
    have failed : FirstMatch (fun event => Session.reportsRole activeRoles event.data)
        (before ++ event :: after) (before ++ [event]) (.error fault) after :=
      .failed (fun other member => reportsRole_eq_false_iff.mpr (others other member))
        (reportsRole_eq_error_iff.mpr malformed)
    rw [← split] at failed
    rw [roleWaited_of_search failed, Outlook.concludes, served]
    exact lateAs_malformed malformed _
  | silent served others =>
    have absent : FirstMatch (fun event => Session.reportsRole activeRoles event.data)
        (roleEvents (roleOutlook setup lab)) (roleEvents (roleOutlook setup lab)) (.ok none) [] :=
      .absent fun event member => reportsRole_eq_false_iff.mpr (others event member)
    rw [roleWaited_of_search absent, Outlook.concludes, served]

theorem reaches_or_fault (outlook : Outlook) (label : Text) :
    Reaches outlook ∨ ∃ fault, WaitFault outlook label fault := by
  -- a scripted fault ends the wait before any event is looked at
  cases scripted : outlook.fault with
  | some scriptedFault =>
    obtain ⟨kind, text⟩ := scriptedFault
    by_cases timeout : kind = .timeout
    · subst timeout
      exact .inr ⟨_, .late scripted⟩
    · exact .inr ⟨_, .broken scripted timeout⟩
  | none =>
    obtain ⟨tested, left, search⟩ := Act.exists_firstMatch "onDeviceRoleChanged"
      (Session.reportsRole activeRoles) outlook.events
    generalize split : outlook.events.filter (·.name = Text.ofString "onDeviceRoleChanged") = row
      at search
    generalize (Act.takeEvent _ _ _).1 = result at search
    cases search with
    | found rejected accepted =>
      refine .inl ⟨scripted, _, _, _, split, fun other member => ?_,
        reportsRole_eq_true_iff.mp accepted⟩
      exact reportsRole_eq_false_iff.mp (rejected other member)
    | failed rejected fails =>
      refine .inr ⟨_, .malformed scripted split (fun other member => ?_)
        (reportsRole_eq_error_iff.mp fails)⟩
      exact reportsRole_eq_false_iff.mp (rejected other member)
    | absent rejected =>
      refine .inr ⟨_, .silent scripted fun event member => ?_⟩
      exact reportsRole_eq_false_iff.mp (rejected event (split ▸ member))

end

section

variable {setup : Setup} {lab : Lab}

theorem join_refused {text : Text} (refused : lab.Refuses joinRequest text) :
    join setup lab =
      (.error (.snippet .request (deviceLabel setup lab) text), asked setup lab) := by
  have sent := @Act.request_eq setup.device joinRequest [] lab
  rw [Lab.reply_of_refuses refused] at sent
  exact Act.bind_of_error sent

theorem join_granted (granted : lab.Grants joinRequest) :
    join setup lab = (roleWatch setup).act (asked setup lab) := by
  have sent := @Act.request_eq setup.device joinRequest [] lab
  rw [Lab.reply_of_grants granted] at sent
  exact Act.bind_of_ok sent

structure Watched (setup : Setup) (lab after : Lab) : Prop where
  calls : after.calls = lab.calls ++ [joinCall setup lab, (roleWatch setup).registerCall lab [],
    (roleWatch setup).waitCall lab, (roleWatch setup).unregisterCall lab]
  devices : after.devices = lab.devices
  shell : after.script.shell = lab.script.shell
  millis : after.millis = lab.millis

theorem join_watched (setup : Setup) (granted : lab.Grants joinRequest)
    (watched : lab.Grants watchRequest) :
    ∃ after, Watched setup lab after ∧
      join setup lab = (lab.reply setup.device unwatchRequest () >>= fun _ => roleWaited setup lab,
        after) := by
  have known : (roleWatch setup).arguments ((asked setup lab).device setup.device) = .ok [] := rfl
  obtain ⟨logs, ran⟩ := Session.Watch.act_granted known watched
  have calls : ((roleWatch setup).served (asked setup lab) []).calls =
      (asked setup lab).calls ++ _ := Session.Watch.calls_served []
  rw [join_granted granted, ran]
  refine ⟨{ (roleWatch setup).served (asked setup lab) [] with logs }, ⟨?_, rfl, rfl, rfl⟩, rfl⟩
  exact calls.trans (List.append_assoc _ _ _)

def shellCalls (calls : List Call) : List Call :=
  calls.filter fun
    | .shell .. => true
    | _ => false

def WithoutShell (lab after : Lab) : Prop :=
  ∃ made, after.calls = lab.calls ++ made ∧ shellCalls made = []

theorem Watched.withoutShell {after : Lab} (watched : Watched setup lab after) :
    WithoutShell lab after :=
  ⟨_, watched.calls, rfl⟩

theorem joins_or_fault (setup : Setup) (lab : Lab) :
    Joins setup lab ∨ ∃ fault, JoinFault setup lab fault := by
  rcases lab.grants_or_refuses joinRequest with asked | ⟨text, refused⟩
  · rcases lab.grants_or_refuses watchRequest with watched | ⟨text, refused⟩
    · rcases lab.grants_or_refuses unwatchRequest with returned | ⟨text, refused⟩
      · rcases reaches_or_fault (roleOutlook setup lab) (deviceLabel setup lab) with
          reaches | ⟨fault, faulty⟩
        · exact .inl ⟨asked, watched, returned, reaches⟩
        · exact .inr ⟨fault, .unreached asked watched returned faulty⟩
      · exact .inr ⟨_, .unreturned asked watched refused⟩
    · exact .inr ⟨_, .unwatched asked refused⟩
  · exact .inr ⟨_, .unasked refused⟩

theorem join_of_joins (joins : Joins setup lab) :
    ∃ role after, Watched setup lab after ∧ join setup lab = (.ok role, after) := by
  obtain ⟨after, watched, ran⟩ := join_watched setup joins.asked joins.watched
  obtain ⟨role, waited⟩ := roleWaited_of_reaches joins.reaches
  refine ⟨role, after, watched, ?_⟩
  rw [ran, Lab.reply_of_grants joins.returned, waited]
  rfl

theorem join_of_fault {fault : Fault} (faulty : JoinFault setup lab fault) :
    ∃ after, WithoutShell lab after ∧ join setup lab = (.error fault, after) := by
  cases faulty with
  | unasked refused => exact ⟨_, ⟨[joinCall setup lab], rfl, rfl⟩, join_refused refused⟩
  | unwatched granted refused =>
    have known : (roleWatch setup).arguments ((asked setup lab).device setup.device) = .ok [] := rfl
    rw [join_granted granted, Session.Watch.act_refused known refused]
    exact ⟨_, ⟨[joinCall setup lab, (roleWatch setup).registerCall lab []],
      List.append_assoc _ _ _, rfl⟩, rfl⟩
  | unreturned granted watched refused =>
    obtain ⟨after, course, ran⟩ := join_watched setup granted watched
    refine ⟨after, course.withoutShell, ?_⟩
    rw [ran, Lab.reply_of_refuses refused]
    rfl
  | unreached granted watched returned faulty =>
    obtain ⟨after, course, ran⟩ := join_watched setup granted watched
    refine ⟨after, course.withoutShell, ?_⟩
    rw [ran, Lab.reply_of_grants returned, roleWaited_of_fault faulty]
    rfl

theorem JoinFault.not_joins {fault : Fault} (faulty : JoinFault setup lab fault) :
    ¬Joins setup lab := by
  intro joins
  obtain ⟨role, after, -, ran⟩ := join_of_joins joins
  obtain ⟨other, -, failed⟩ := join_of_fault faulty
  rw [ran] at failed
  cases failed

end

end ThreadLab.Trial.Lifecycle
