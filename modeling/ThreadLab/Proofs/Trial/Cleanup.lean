import ThreadLab.Proofs.Session.Custody
import ThreadLab.Proofs.Session.Sparing
import ThreadLab.Trial.ServiceDiscovery

namespace ThreadLab

/-- The call was made, and no second time. -/
def MadeOnce (call : Call) (made : List Call) : Prop :=
  ∃ before after, made = before ++ call :: after ∧ call ∉ before ∧ call ∉ after

theorem MadeOnce.within {call : Call} {made before after : List Call} (once : MadeOnce call made)
    (early : call ∉ before) (late : call ∉ after) :
    MadeOnce call (before ++ made ++ after) := by
  obtain ⟨first, last, rfl, outsideFirst, outsideLast⟩ := once
  refine ⟨before ++ first, last ++ after, by simp, ?_, ?_⟩
  · simp [early, outsideFirst]
  · simp [late, outsideLast]

namespace Trial.ServiceDiscovery

def advertiseRequest : Text := "nsdRegisterService"

def withdrawRequest : Text := "nsdUnregisterService"

def resolveRequest : Text := "nsdRegisterServiceInfoCallback"

def unresolveRequest : Text := "nsdUnregisterServiceInfoCallback"

section

variable (setup : Setup) (name : Json) (lab : Lab)

def advertiseCall : Call :=
  .request (lab.device setup.advertiser).serial advertiseRequest [(service name).json]

def withdrawCall : Call :=
  .request (lab.device setup.advertiser).serial withdrawRequest [name]

def discoverCall : Call :=
  .request (lab.device setup.browser).serial Session.startDiscoveryRequest [serviceType]

def stopCall (callback : Text) : Call :=
  .request (lab.device setup.browser).serial Session.stopDiscoveryRequest [.text callback]

def lookup : Act Service.Info := do
  let found ← Session.discover setup.browser serviceType Settings.discoveryTimeout
  Act.check (found.name.equals (service name).name)
  Session.resolveUntil setup.browser found (fun update => .ok !update.hosts.isEmpty)
    Settings.discoveryTimeout

def advertised : Lab :=
  lab.record (advertiseCall setup name lab)

end

variable {setup : Setup} {name : Json} {lab : Lab}

theorem ne_withdrawRequest : ∀ other ∈ [advertiseRequest, Session.startDiscoveryRequest,
    Session.stopDiscoveryRequest, resolveRequest, unresolveRequest], other ≠ withdrawRequest := by
  decide +kernel

theorem ne_stopDiscoveryRequest : ∀ other ∈ [advertiseRequest, withdrawRequest,
    Session.startDiscoveryRequest, resolveRequest, unresolveRequest],
    other ≠ Session.stopDiscoveryRequest := by
  decide +kernel

theorem advertise_eq : advertise setup name lab =
    (lab.reply setup.advertiser advertiseRequest (service name), advertised setup name lab) :=
  Act.request_return (service name)

theorem snd_withdraw (lab : Lab) :
    (withdraw setup (service name) lab).2 = lab.record (withdrawCall setup name lab) :=
  congrArg Prod.snd (Act.request_return ())

theorem advertise_granted (granted : lab.Grants advertiseRequest) :
    advertise setup name lab = (.ok (service name), advertised setup name lab) := by
  rw [advertise_eq, Lab.reply, granted]

/-- The service was withdrawn. -/
def Withdrawn (setup : Setup) (name : Json) (lab after : Lab) : Prop :=
  ∃ made, after.calls = lab.calls ++ made ∧ withdrawCall setup name lab ∈ made

/-- The discovery that the browser began was stopped, once. -/
structure Stopped (setup : Setup) (lab after : Lab) : Prop where
  callbacks : lab.callbacks ++ [(setup.browser, lab.nextCallback setup.browser)] <+: after.callbacks
  calls : ∃ made, after.calls = lab.calls ++ made ∧
    MadeOnce (stopCall setup lab (lab.nextCallback setup.browser)) made
  devices : after.devices = lab.devices

theorem Withdrawn.continues {middle after : Lab} {other : Text}
    (withdrawn : Withdrawn setup name lab middle) (rest : middle.Continues other after) :
    Withdrawn setup name lab after := by
  obtain ⟨early, earlyCalls, member⟩ := withdrawn
  obtain ⟨late, lateCalls, -⟩ := rest.calls
  refine ⟨early ++ late, ?_, List.mem_append_left late member⟩
  rw [lateCalls, earlyCalls, List.append_assoc]

theorem Stopped.continues {middle after : Lab} (stopped : Stopped setup lab middle)
    (rest : middle.Continues Session.stopDiscoveryRequest after) : Stopped setup lab after := by
  obtain ⟨early, earlyCalls, once⟩ := stopped.calls
  obtain ⟨late, lateCalls, spared⟩ := rest.calls
  constructor
  · exact stopped.callbacks.trans rest.callbacks
  · refine ⟨early ++ late, ?_, ?_⟩
    · rw [lateCalls, earlyCalls, List.append_assoc]
    · exact once.within List.not_mem_nil (spared _ _)
  · exact rest.devices.trans stopped.devices

theorem Stopped.of_advertised {after : Lab}
    (stopped : Stopped setup (advertised setup name lab) after) : Stopped setup lab after := by
  obtain ⟨made, calls, once⟩ := stopped.calls
  have early : stopCall setup lab (lab.nextCallback setup.browser) ∉
      [advertiseCall setup name lab] := by
    intro member
    have apart := ne_stopDiscoveryRequest advertiseRequest (by simp)
    exact Call.request_ne apart _ _ _ _ (List.mem_singleton.mp member)
  constructor
  · exact stopped.callbacks
  · refine ⟨[advertiseCall setup name lab] ++ made, ?_, ?_⟩
    · rw [calls, ← List.append_assoc]
      rfl
    · have within := once.within early List.not_mem_nil
      rwa [List.append_nil] at within
  · exact stopped.devices

theorem withdrawn_withdraw {middle : Lab} (devices : middle.devices = lab.devices)
    (earlier : ∃ made, middle.calls = lab.calls ++ made) :
    Withdrawn setup name lab (withdraw setup (service name) middle).2 := by
  obtain ⟨made, calls⟩ := earlier
  have same : withdrawCall setup name middle = withdrawCall setup name lab := by
    unfold withdrawCall
    rw [Lab.device_of_devices devices]
  refine ⟨made ++ [withdrawCall setup name lab], ?_, by simp⟩
  rw [snd_withdraw, same, ← List.append_assoc, ← calls]
  rfl

theorem spares_withdraw (info : Service.Info) :
    (withdraw setup info).Spares Session.stopDiscoveryRequest :=
  Act.spares_bind (Act.spares_request (ne_stopDiscoveryRequest withdrawRequest (by simp)) _ _)
    fun _ => Act.spares_pure _

def discoverWatch (setup : Setup) : Session.Watch Service.Info :=
  Session.Errand.discoveryWatch setup.browser serviceType Settings.discoveryTimeout

theorem discover_eq (setup : Setup) :
    Session.discover setup.browser serviceType Settings.discoveryTimeout =
      (discoverWatch setup).act :=
  Session.Errand.act_eq (.discovery setup.browser serviceType Settings.discoveryTimeout)

theorem stopped_of_course {result : Except Fault Service.Info} {after : Lab}
    (course : (discoverWatch setup).Course lab result after)
    (granted : lab.Grants Session.startDiscoveryRequest) : Stopped setup lab after := by
  cases course with
  | unasked unknown => cases unknown
  | refused known refused => exact absurd (granted.symm.trans refused) nofun
  | @returned arguments _ known _ calls callbacks devices =>
    have apart := ne_stopDiscoveryRequest Session.startDiscoveryRequest (by simp)
    have early : stopCall setup lab (lab.nextCallback setup.browser) ∉
        [(discoverWatch setup).registerCall lab arguments, (discoverWatch setup).waitCall lab] := by
      intro member
      simp only [List.mem_cons, List.not_mem_nil, or_false] at member
      rcases member with first | waited
      · exact Call.request_ne apart _ _ _ _ first
      · cases waited
    constructor
    · rw [callbacks]
      exact List.prefix_rfl
    · exact ⟨_, calls, [_, _], [], rfl, early, List.not_mem_nil⟩
    · exact devices

theorem spares_lookup_rest {other : Text} (registers : resolveRequest ≠ other)
    (unregisters : unresolveRequest ≠ other) (found : Service.Info) :
    (do
      Act.check (found.name.equals (service name).name)
      Session.resolveUntil setup.browser found (fun update => .ok !update.hosts.isEmpty)
        Settings.discoveryTimeout).Spares other := by
  rw [Session.resolveUntil, Session.Errand.resolveSought_eq]
  exact Act.spares_bind (Act.spares_check _) fun _ =>
    Session.Watch.spares_act registers unregisters

theorem spares_lookup : (lookup setup name).Spares withdrawRequest := by
  have starts := ne_withdrawRequest Session.startDiscoveryRequest (by simp)
  have stops := ne_withdrawRequest Session.stopDiscoveryRequest (by simp)
  have resolves := ne_withdrawRequest resolveRequest (by simp)
  have unresolves := ne_withdrawRequest unresolveRequest (by simp)
  unfold lookup
  rw [discover_eq]
  exact Act.spares_bind (Session.Watch.spares_act starts stops)
    (spares_lookup_rest resolves unresolves)

theorem stopped_lookup (granted : lab.Grants Session.startDiscoveryRequest) :
    Stopped setup lab (lookup setup name lab).2 := by
  have resolves := ne_stopDiscoveryRequest resolveRequest (by simp)
  have unresolves := ne_stopDiscoveryRequest unresolveRequest (by simp)
  have stopped := stopped_of_course ((discoverWatch setup).course_act lab) granted
  unfold lookup
  rw [discover_eq]
  exact stopped.continues (Act.continues_bind (spares_lookup_rest resolves unresolves) lab)

theorem findsService_continues (granted : lab.Grants advertiseRequest) (other : Text) :
    (withdraw setup (service name) (lookup setup name (advertised setup name lab)).2).2.Continues
      other (findsService setup name lab).2 := by
  rw [← Act.snd_andThen]
  unfold findsService
  rw [Act.bind_of_ok (advertise_granted granted)]
  refine Act.continues_bind (fun resolved => ?_) _
  exact Act.spares_bind (Act.spares_check _) fun _ => Act.spares_check _

theorem findsService_withdraws (granted : lab.Grants advertiseRequest) :
    Withdrawn setup name lab (findsService setup name lab).2 := by
  have looked := @spares_lookup setup name (advertised setup name lab)
  obtain ⟨made, calls, -⟩ := looked.calls
  have earlier : ∃ made,
      (lookup setup name (advertised setup name lab)).2.calls = lab.calls ++ made := by
    refine ⟨advertiseCall setup name lab :: made, ?_⟩
    rw [calls, List.append_cons]
    rfl
  have withdrawn := @withdrawn_withdraw setup name lab _ looked.devices earlier
  exact withdrawn.continues (findsService_continues granted withdrawRequest)

theorem findsService_stops (advertises : lab.Grants advertiseRequest)
    (discovers : lab.Grants Session.startDiscoveryRequest) :
    Stopped setup lab (findsService setup name lab).2 := by
  have looked := @stopped_lookup setup name (advertised setup name lab) discovers
  have withdrew := looked.continues (@spares_withdraw setup (service name) _)
  have finished := withdrew.continues (findsService_continues advertises _)
  exact finished.of_advertised

def looking (setup : Setup) (name : Json) (lab : Lab) : Lab :=
  (advertised setup name lab).registered setup.browser Session.startDiscoveryRequest [serviceType]

def watchLoss (setup : Setup) (name : Json) (discovery : Nat) : Act Service.Info := do
  withdraw setup (service name)
  Session.waitForLost discovery Settings.discoveryTimeout

def watched (setup : Setup) (name : Json) (lab : Lab) : Lab :=
  (watchLoss setup name lab.handlers.length (looking setup name lab)).2

def ended (setup : Setup) (name : Json) (lab : Lab) : Lab :=
  (Session.stopDiscovery setup.browser lab.handlers.length (watched setup name lab)).2

theorem losesService_refused (advertises : lab.Grants advertiseRequest)
    (refused : ¬lab.Grants Session.startDiscoveryRequest) :
    (losesService setup name lab).2.calls =
      lab.calls ++ [advertiseCall setup name lab, discoverCall setup lab] := by
  obtain ⟨text, faulty⟩ := Option.ne_none_iff_exists'.mp refused
  have started : Session.startDiscovery setup.browser serviceType (advertised setup name lab) = _ :=
    Act.register_refused faulty
  unfold losesService
  rw [Act.bind_of_ok (advertise_granted advertises), Act.bind_of_error started, List.append_cons]
  rfl

theorem losesService_leaves (advertises : lab.Grants advertiseRequest)
    (refused : ¬lab.Grants Session.startDiscoveryRequest) :
    ¬Withdrawn setup name lab (losesService setup name lab).2 := by
  rintro ⟨made, calls, member⟩
  rw [losesService_refused advertises refused] at calls
  rw [← List.append_cancel_left calls] at member
  simp only [List.mem_cons, List.not_mem_nil, or_false] at member
  rcases member with first | second
  · exact Call.request_ne (ne_withdrawRequest _ (by simp)) _ _ _ _ first
  · exact Call.request_ne (ne_withdrawRequest _ (by simp)) _ _ _ _ second

theorem losesService_continues (advertises : lab.Grants advertiseRequest)
    (discovers : lab.Grants Session.startDiscoveryRequest) (other : Text) :
    (ended setup name lab).Continues other (losesService setup name lab).2 := by
  have started : Session.startDiscovery setup.browser serviceType (advertised setup name lab) =
      (.ok lab.handlers.length, looking setup name lab) := Act.register_granted discovers
  unfold ended watched
  rw [← Act.snd_andThen]
  unfold losesService
  rw [Act.bind_of_ok (advertise_granted advertises), Act.bind_of_ok started]
  exact Act.continues_bind (fun _ => Act.spares_check _) _

theorem looking_watched (setup : Setup) (name : Json) (lab : Lab) :
    (looking setup name lab).Continues Session.stopDiscoveryRequest (watched setup name lab) :=
  Act.spares_bind (spares_withdraw (service name)) (fun _ => Session.spares_waitForLost _ _) _

theorem callbacks_watched (setup : Setup) (name : Json) (lab : Lab) :
    lab.callbacks ++ [(setup.browser, lab.nextCallback setup.browser)] <+:
      (watched setup name lab).callbacks := by
  have begun : (looking setup name lab).callbacks =
      lab.callbacks ++ [(setup.browser, lab.nextCallback setup.browser)] :=
    (advertised setup name lab).callbacks_registered setup.browser _ _
  rw [← begun]
  exact (looking_watched setup name lab).callbacks

theorem still_ended (setup : Setup) (name : Json) (lab : Lab) :
    (watched setup name lab).Still (ended setup name lab) :=
  Session.Step.quiet_stopDiscovery setup.browser lab.handlers.length _

theorem calls_ended (setup : Setup) (name : Json) (lab : Lab) :
    (ended setup name lab).calls = (watched setup name lab).calls ++
      [stopCall setup lab (lab.nextCallback setup.browser)] := by
  have place : lab.callbacks.length = lab.handlers.length := List.length_map _
  have registered : (watched setup name lab).callbacks[lab.handlers.length]? =
      some (setup.browser, lab.nextCallback setup.browser) := by
    obtain ⟨others, same⟩ := callbacks_watched setup name lab
    rw [← same, ← place, List.append_assoc, List.getElem?_append_right (Nat.le_refl _)]
    simp
  have devices : (watched setup name lab).devices = lab.devices :=
    (looking_watched setup name lab).devices
  unfold ended
  rw [Session.calls_stopDiscovery setup.browser registered, Lab.device_of_devices devices]
  rfl

theorem losesService_withdraws (advertises : lab.Grants advertiseRequest)
    (discovers : lab.Grants Session.startDiscoveryRequest) :
    Withdrawn setup name lab (losesService setup name lab).2 := by
  have earlier : ∃ made, (looking setup name lab).calls = lab.calls ++ made :=
    ⟨[advertiseCall setup name lab, discoverCall setup lab], (List.append_cons _ _ _).symm⟩
  have withdrew := @withdrawn_withdraw setup name lab (looking setup name lab) rfl earlier
  have waiting : (withdraw setup (service name) (looking setup name lab)).2.Continues
      withdrawRequest (watched setup name lab) :=
    Act.continues_bind (fun _ => Session.spares_waitForLost _ _) _
  have stopping : (watched setup name lab).Continues withdrawRequest (ended setup name lab) := by
    apply (still_ended setup name lab).continues (calls_ended setup name lab)
    intro serial given member
    have apart := ne_withdrawRequest Session.stopDiscoveryRequest (by simp)
    exact Call.request_ne apart _ _ _ _ (List.mem_singleton.mp member)
  have stopped := (withdrew.continues waiting).continues stopping
  exact stopped.continues (losesService_continues advertises discovers withdrawRequest)

theorem losesService_stops (advertises : lab.Grants advertiseRequest)
    (discovers : lab.Grants Session.startDiscoveryRequest) :
    Stopped setup lab (losesService setup name lab).2 := by
  have body := looking_watched setup name lab
  have still := still_ended setup name lab
  obtain ⟨made, calls, spared⟩ := body.calls
  have stopped : Stopped setup (advertised setup name lab) (ended setup name lab) := by
    constructor
    · rw [still.callbacks]
      exact callbacks_watched setup name lab
    · refine ⟨discoverCall setup lab :: made ++
        [stopCall setup lab (lab.nextCallback setup.browser)], ?_, _, [], rfl, ?_,
        List.not_mem_nil⟩
      · have begun : (looking setup name lab).calls =
            (advertised setup name lab).calls ++ [discoverCall setup lab] := rfl
        rw [calls_ended, calls, begun]
        simp
      · -- Nothing before the last call stops a discovery, so that call is the only one.
        intro member
        rcases List.mem_cons.mp member with first | later
        · have apart := ne_stopDiscoveryRequest Session.startDiscoveryRequest (by simp)
          exact Call.request_ne apart _ _ _ _ first
        · exact spared _ _ later
    · exact still.devices.trans body.devices
  have finished := stopped.continues (losesService_continues advertises discovers _)
  exact finished.of_advertised

theorem advertise_refused (refused : ¬lab.Grants advertiseRequest) {α : Type}
    (next : Service.Info → Act α) :
    ((advertise setup name >>= next) lab).2.calls =
      lab.calls ++ [advertiseCall setup name lab] := by
  obtain ⟨text, faulty⟩ := Option.ne_none_iff_exists'.mp refused
  have ran := @advertise_eq setup name lab
  unfold Lab.reply at ran
  rw [faulty] at ran
  rw [Act.bind_of_error ran]
  rfl

/-- A service that was advertised is withdrawn, but not if the trial of its loss cannot begin the
discovery. A discovery that was begun is stopped once. -/
theorem trials_clean_up (setup : Setup) (name : Json) (lab : Lab) :
    (¬lab.Grants advertiseRequest →
      (findsService setup name lab).2.calls = lab.calls ++ [advertiseCall setup name lab] ∧
        (losesService setup name lab).2.calls = lab.calls ++ [advertiseCall setup name lab]) ∧
    (lab.Grants advertiseRequest →
      Withdrawn setup name lab (findsService setup name lab).2 ∧
        (Withdrawn setup name lab (losesService setup name lab).2 ↔
          lab.Grants Session.startDiscoveryRequest)) ∧
    (lab.Grants advertiseRequest → lab.Grants Session.startDiscoveryRequest →
      Stopped setup lab (findsService setup name lab).2 ∧
        Stopped setup lab (losesService setup name lab).2) := by
  refine ⟨fun refused => ?_, fun advertises => ?_, fun advertises discovers => ?_⟩
  · exact ⟨advertise_refused refused _, advertise_refused refused _⟩
  · refine ⟨findsService_withdraws advertises, fun withdrawn => ?_, fun discovers => ?_⟩
    · apply Decidable.byContradiction
      intro refused
      exact losesService_leaves advertises refused withdrawn
    · exact losesService_withdraws advertises discovers
  · exact ⟨findsService_stops advertises discovers, losesService_stops advertises discovers⟩

def granting : Lab :=
  Lab.ofSerials ["adv", "brw"] [] 0

theorem trials_clean_up_granting :
    granting.Grants advertiseRequest ∧ granting.Grants Session.startDiscoveryRequest ∧
      Withdrawn ⟨0, 1⟩ (.text "svcname1") granting
        (losesService ⟨0, 1⟩ (.text "svcname1") granting).2 ∧
      Stopped ⟨0, 1⟩ granting (findsService ⟨0, 1⟩ (.text "svcname1") granting).2 ∧
      Stopped ⟨0, 1⟩ granting (losesService ⟨0, 1⟩ (.text "svcname1") granting).2 := by
  have advertises : granting.Grants advertiseRequest := by decide
  have discovers : granting.Grants Session.startDiscoveryRequest := by decide
  obtain ⟨-, withdraws, stops⟩ := trials_clean_up ⟨0, 1⟩ (.text "svcname1") granting
  exact ⟨advertises, discovers, (withdraws advertises).2.mpr discovers, stops advertises discovers⟩

def refusing : Lab :=
  { Lab.ofSerials ["adv", "brw"] [] 0 with
    script := { requestFaults := [(Session.startDiscoveryRequest, "fail")] } }

theorem service_left_advertised :
    refusing.Grants advertiseRequest ∧
      (losesService ⟨0, 1⟩ (.text "svcname1") refusing).2.calls =
        [.request "adv" "nsdRegisterService" [(service (.text "svcname1")).json],
          .request "brw" "nsdDiscoverServices" [.text "_threadtest._udp"]] ∧
      ¬Withdrawn ⟨0, 1⟩ (.text "svcname1") refusing
        (losesService ⟨0, 1⟩ (.text "svcname1") refusing).2 := by
  have advertises : refusing.Grants advertiseRequest := by decide
  have refused : ¬refusing.Grants Session.startDiscoveryRequest := by decide
  exact ⟨advertises, losesService_refused advertises refused,
    losesService_leaves advertises refused⟩

end Trial.ServiceDiscovery

end ThreadLab
