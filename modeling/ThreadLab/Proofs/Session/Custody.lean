import ThreadLab.Proofs.Session.Errand
import ThreadLab.Proofs.Session.Quiet

namespace ThreadLab.Session

def registerRequests : List Text :=
  ["threadRegisterStateCallback", startDiscoveryRequest, "nsdRegisterServiceInfoCallback",
    "connectivityRegisterNetworkCallback"]

inductive Step where
  | errand (errand : Errand)
  | startDiscovery (device : Nat) (kind : Json)
  | waitForLost (handler : Nat) (limit : Duration)
  | stopDiscovery (device handler : Nat)
  | request (device : Nat) (name : Text) (arguments : List Json) (plain : name ∉ registerRequests)
  | systemLevel (device : Nat)
  | isInGroup (device : Nat) (interface : Text) (group : Ip.Reference)
  | waitForGroup (device : Nat) (interface : Text) (group : Ip.Reference) (limit : Duration)
  | linkAddresses (device : Nat) (interface : Text)
  | daemonCommand (device : Nat) (command : Text)
  | networkData (device : Nat)
  | networkPrefixes (device : Nat)
  | wakeScreen (device : Nat)
  | prepare (device : Nat)

theorem Watch.Course.still_or_returned {α : Type} {watch : Watch α} {lab after : Lab}
    {result : Except Fault α} (course : watch.Course lab result after) :
    lab.Still after ∨
      after.callbacks = lab.callbacks ++ [(watch.device, lab.nextCallback watch.device)] ∧
        watch.unregisterCall lab ∈ after.calls ∧ after.devices = lab.devices := by
  cases course with
  | unasked unknown => exact .inl ⟨rfl, rfl⟩
  | refused known refused => exact .inl ⟨rfl, rfl⟩
  | returned known granted calls callbacks devices =>
    have undone : watch.unregisterCall lab ∈ after.calls := by
      rw [calls]
      simp
    exact .inr ⟨callbacks, undone, devices⟩

namespace Step

def run (lab : Lab) : Step → Lab
  | errand made => (made.act lab).2
  | startDiscovery device kind => (Session.startDiscovery device kind lab).2
  | waitForLost handler limit => (Session.waitForLost handler limit lab).2
  | stopDiscovery device handler => (Session.stopDiscovery device handler lab).2
  | request device name arguments _ => (Act.request device name arguments lab).2
  | systemLevel device => (Session.systemLevel device lab).2
  | isInGroup device interface group => (Session.isInGroup device interface group lab).2
  | waitForGroup device interface group limit =>
    (Session.waitForGroup device interface group limit lab).2
  | linkAddresses device interface => (Session.linkAddresses device interface lab).2
  | daemonCommand device command => (Session.daemonCommand device command lab).2
  | networkData device => (Session.networkData device lab).2
  | networkPrefixes device => (Session.networkPrefixes device lab).2
  | wakeScreen device => (Session.wakeScreen device lab).2
  | prepare device => (Session.prepare device lab).2

theorem quiet_waitForLost (handler : Nat) (limit : Duration) :
    (Session.waitForLost handler limit).Quiet :=
  Act.quiet_bind (Act.quiet_onTimeout (Act.quiet_await .first handler _ _ limit) _) fun _ =>
    Act.quiet_ofExcept _

theorem quiet_stopDiscovery (device handler : Nat) : (Session.stopDiscovery device handler).Quiet :=
  Act.quiet_bind (Act.quiet_handler handler) fun _ =>
    Act.quiet_bind (Act.quiet_request device _ _) fun _ => Act.quiet_pure _

theorem quiet_systemLevel (device : Nat) : (Session.systemLevel device).Quiet := by
  intro lab
  rw [systemLevel_eq]
  exact ⟨rfl, rfl⟩

/-- What a call leaves of the callbacks: none is registered, one that the call itself gives back, or
one of a discovery. -/
inductive Effect (step : Step) (lab : Lab) : Prop
  | quiet (still : lab.Still (step.run lab))
  | returned (made : Errand) (same : step = errand made)
    (callbacks : (step.run lab).callbacks =
      lab.callbacks ++ [(made.watch.device, lab.nextCallback made.watch.device)])
    (undone : made.watch.unregisterCall lab ∈ (step.run lab).calls)
    (devices : (step.run lab).devices = lab.devices)
  | kept (device : Nat) (kind : Json) (same : step = startDiscovery device kind)
    (callbacks : (step.run lab).callbacks = lab.callbacks ++ [(device, lab.nextCallback device)])
    (devices : (step.run lab).devices = lab.devices)

theorem effect_errand (made : Errand) (lab : Lab) : (errand made).Effect lab := by
  have course := Watch.course_act made.watch lab
  rw [← Errand.act_eq] at course
  have still_or := course.still_or_returned
  rcases still_or with still | ⟨callbacks, undone, devices⟩
  · exact .quiet still
  · exact .returned made rfl callbacks undone devices

theorem effect_startDiscovery (device : Nat) (kind : Json) (lab : Lab) :
    (startDiscovery device kind).Effect lab := by
  cases granted : lab.script.requestFaults.lookup startDiscoveryRequest with
  | some text =>
    have refused := @Act.register_refused device _ [kind] lab text granted
    have still : lab.Still (Act.register device startDiscoveryRequest [kind] lab).2 := by
      rw [refused]
      exact ⟨rfl, rfl⟩
    exact .quiet still
  | none =>
    have ran : (startDiscovery device kind).run lab = lab.registered device _ [kind] :=
      congrArg Prod.snd (Act.register_granted granted)
    apply Effect.kept device kind rfl
    · rw [ran]
      exact lab.callbacks_registered device _ [kind]
    · rw [ran]
      rfl

theorem effect (step : Step) (lab : Lab) : step.Effect lab := by
  cases step with
  | errand made => exact effect_errand made lab
  | startDiscovery device kind => exact effect_startDiscovery device kind lab
  | waitForLost handler limit => exact .quiet (quiet_waitForLost handler limit lab)
  | stopDiscovery device handler => exact .quiet (quiet_stopDiscovery device handler lab)
  | request device name arguments plain => exact .quiet (Act.quiet_request device name arguments lab)
  | systemLevel device => exact .quiet (quiet_systemLevel device lab)
  | isInGroup device interface group => exact .quiet (quiet_isInGroup device interface group lab)
  | waitForGroup device interface group limit =>
    exact .quiet (Act.quiet_waitFor (quiet_isInGroup device interface group) limit lab)
  | linkAddresses device interface => exact .quiet (quiet_linkAddresses device interface lab)
  | daemonCommand device command => exact .quiet (Act.quiet_shellText device _ lab)
  | networkData device => exact .quiet (Act.quiet_shellText device _ lab)
  | networkPrefixes device => exact .quiet (quiet_networkPrefixes device lab)
  | wakeScreen device => exact .quiet (quiet_wakeScreen device lab)
  | prepare device => exact .quiet (quiet_prepare device lab)

end Step

structure Visit where
  step : Step
  before : Lab

namespace Visit

def after (visit : Visit) : Lab :=
  visit.step.run visit.before

/-- The callback that a call has registered, with its device. -/
def registered? (visit : Visit) : Option (Nat × Text) :=
  visit.after.callbacks[visit.before.callbacks.length]?

end Visit

/-- The calls of a session; the record begins anew with each of them. -/
def visits (lab : Lab) : List (Script × Step) → List Visit
  | [] => []
  | (script, step) :: calls =>
    let visit : Visit := { step, before := lab.begin script }
    visit :: visits visit.after calls

theorem Visit.effect (visit : Visit) : visit.step.Effect visit.before :=
  visit.step.effect visit.before

theorem Visit.devices_after (visit : Visit) : visit.after.devices = visit.before.devices := by
  cases visit.effect with
  | quiet still => exact still.devices
  | returned made same callbacks undone devices => exact devices
  | kept device kind same callbacks devices => exact devices

theorem Visit.registered?_of_append {visit : Visit} {entry : Nat × Text}
    (callbacks : visit.after.callbacks = visit.before.callbacks ++ [entry]) :
    visit.registered? = some entry := by
  unfold registered?
  rw [callbacks]
  exact List.getElem?_concat_length

theorem Visit.registered?_of_still {visit : Visit} (still : visit.before.Still visit.after) :
    visit.registered? = none := by
  unfold registered?
  rw [still.callbacks]
  exact List.getElem?_eq_none (Nat.le_refl _)

theorem Visit.callbacks_after (visit : Visit) :
    visit.after.callbacks = visit.before.callbacks ++ visit.registered?.toList := by
  cases visit.effect with
  | quiet still =>
    rw [registered?_of_still still, Option.toList_none, List.append_nil]
    exact still.callbacks
  | returned made same callbacks undone devices =>
    rw [registered?_of_append callbacks]
    exact callbacks
  | kept device kind same callbacks devices =>
    rw [registered?_of_append callbacks]
    exact callbacks

theorem Visit.prefix_after (visit : Visit) : visit.before.callbacks <+: visit.after.callbacks :=
  ⟨_, visit.callbacks_after.symm⟩

theorem devices_of_visits {lab : Lab} {calls : List (Script × Step)} {visit : Visit}
    (member : visit ∈ visits lab calls) : visit.before.devices = lab.devices := by
  induction calls generalizing lab with
  | nil => cases member
  | cons call calls ih =>
    rcases List.mem_cons.mp member with rfl | member
    · rfl
    · exact (ih member).trans (Visit.devices_after _)

theorem device_of_visits {lab : Lab} {calls : List (Script × Step)} {visit : Visit}
    (member : visit ∈ visits lab calls) (place : Nat) :
    visit.before.device place = lab.device place :=
  Lab.device_of_devices (devices_of_visits member) place

theorem prefix_of_visits {lab : Lab} {calls : List (Script × Step)} {visit : Visit}
    (member : visit ∈ visits lab calls) : lab.callbacks <+: visit.before.callbacks := by
  induction calls generalizing lab with
  | nil => cases member
  | cons call calls ih =>
    rcases List.mem_cons.mp member with rfl | member
    · exact List.prefix_rfl
    · exact (Visit.prefix_after _).trans (ih member)

theorem prefix_of_later {lab : Lab} {calls : List (Script × Step)} {visit later : Visit}
    (member : visit ∈ visits lab calls) (other : later ∈ visits lab calls)
    (more : visit.before.callbacks.length < later.before.callbacks.length) :
    visit.after.callbacks <+: later.before.callbacks := by
  induction calls generalizing lab with
  | nil => cases member
  | cons call calls ih =>
    rcases List.mem_cons.mp member with rfl | member <;>
      rcases List.mem_cons.mp other with rfl | other
    · omega
    · exact prefix_of_visits other
    · have whole := (Visit.prefix_after _).trans (prefix_of_visits member)
      have shorter := whole.length_le
      omega
    · exact ih member other

theorem calls_stopDiscovery {lab : Lab} {place owner : Nat} {callback : Text} (device : Nat)
    (registered : lab.callbacks[place]? = some (owner, callback)) :
    (stopDiscovery device place lab).2.calls = lab.calls ++
      [.request (lab.device device).serial stopDiscoveryRequest [.text callback]] := by
  unfold Lab.callbacks at registered
  rw [List.getElem?_map] at registered
  obtain ⟨handler, found, same⟩ := Option.map_eq_some_iff.mp registered
  cases same
  unfold stopDiscovery
  rw [Act.bind_of_ok (Act.handler_eq found)]
  exact congrArg (fun ran => ran.2.calls) (Act.request_return ())

theorem callbackName_injective : Function.Injective callbackName := by
  intro left right same
  have texts := List.append_cancel_left same
  have strings := congrArg Text.display texts
  rw [Text.display_ofString, Text.display_ofString] at strings
  have digits := congrArg String.toList strings
  rw [Nat.toString_eq_repr, Nat.toString_eq_repr, Nat.toList_repr, Nat.toList_repr] at digits
  have numbers := congrArg (Nat.ofDigitChars 10 · 0) digits
  simpa only [Nat.ofDigitChars_ten_toDigits] using numbers

theorem length_handlersOf (lab : Lab) (device : Nat) :
    (lab.handlersOf device).length = (lab.callbacks.map Prod.fst).count device := by
  unfold Lab.handlersOf Lab.callbacks
  rw [List.map_map]
  -- the places are counted from any start, as the handlers behind the first are
  suffices all : ∀ (handlers : List Handler) (start : Nat),
      ((handlers.zipIdx start).filterMap fun entry =>
        if entry.1.device = device then some entry.2 else none).length =
          (handlers.map (Prod.fst ∘ fun handler => (handler.device, handler.callback))).count device
    from all lab.handlers 0
  intro handlers
  induction handlers with
  | nil => exact fun _ => rfl
  | cons handler handlers ih =>
    intro start
    rw [List.zipIdx_cons, List.filterMap_cons, List.map_cons, List.count_cons]
    by_cases here : handler.device = device
    · simp [here, ih]
    · simp [here, ih]

/-- No callback is registered twice: each has a number, and none is beyond the count of the callbacks
of its device. -/
structure Numbered (lab : Lab) : Prop where
  nodup : lab.callbacks.Nodup
  known : ∀ device callback, (device, callback) ∈ lab.callbacks →
    ∃ number ≤ (lab.callbacks.map Prod.fst).count device,
      callback = (lab.device device).callback number

theorem Numbered.register {lab after : Lab} {device : Nat}
    (distinct : ∀ place, Function.Injective (lab.device place).callback) (numbered : Numbered lab)
    (callbacks : after.callbacks = lab.callbacks ++ [(device, lab.nextCallback device)])
    (devices : after.devices = lab.devices) : Numbered after := by
  have next : lab.nextCallback device =
      (lab.device device).callback ((lab.callbacks.map Prod.fst).count device + 1) := by
    unfold Lab.nextCallback
    rw [length_handlersOf]
  constructor
  · rw [callbacks, List.nodup_append]
    refine ⟨numbered.nodup, by simp, ?_⟩
    intro entry member fresh inside same
    rw [List.mem_singleton] at inside
    rw [same, inside] at member
    obtain ⟨number, small, named⟩ := numbered.known device _ member
    rw [next] at named
    have equal := distinct device named
    omega
  · intro owner callback member
    rw [callbacks] at member
    rw [callbacks, Lab.device_of_devices devices, List.map_append, List.count_append]
    rcases List.mem_append.mp member with member | member
    · obtain ⟨number, small, named⟩ := numbered.known owner callback member
      exact ⟨number, by omega, named⟩
    · rw [List.mem_singleton] at member
      cases member
      refine ⟨_, ?_, next⟩
      simp

theorem Numbered.of_still {lab after : Lab} (numbered : Numbered lab) (still : lab.Still after) :
    Numbered after := by
  constructor
  · rw [still.callbacks]
    exact numbered.nodup
  · intro owner callback
    rw [still.callbacks, Lab.device_of_devices still.devices]
    exact numbered.known owner callback

theorem Visit.numbered_after {visit : Visit}
    (distinct : ∀ place, Function.Injective (visit.before.device place).callback)
    (numbered : Numbered visit.before) : Numbered visit.after := by
  cases visit.effect with
  | quiet still => exact numbered.of_still still
  | returned made same callbacks undone devices =>
    exact numbered.register distinct callbacks devices
  | kept device kind same callbacks devices => exact numbered.register distinct callbacks devices

theorem numbered_of_visits {lab : Lab} {calls : List (Script × Step)} {visit : Visit}
    (distinct : ∀ place, Function.Injective (lab.device place).callback)
    (numbered : Numbered lab) (member : visit ∈ visits lab calls) : Numbered visit.before := by
  induction calls generalizing lab with
  | nil => cases member
  | cons call calls ih =>
    obtain ⟨script, step⟩ := call
    have started : Numbered (lab.begin script) := ⟨numbered.nodup, numbered.known⟩
    rcases List.mem_cons.mp member with rfl | member
    · exact started
    · refine ih ?_ (Visit.numbered_after distinct started) member
      intro place
      rw [Lab.device_of_devices (Visit.devices_after _)]
      exact distinct place

theorem numbered_of_fresh {lab : Lab} (fresh : lab.handlers = []) : Numbered lab := by
  have none : lab.callbacks = [] := by
    unfold Lab.callbacks
    rw [fresh]
    rfl
  constructor
  · rw [none]
    exact List.nodup_nil
  · rw [none]
    exact fun _ _ inside => absurd inside List.not_mem_nil

theorem custody_of_registered {lab : Lab} {calls : List (Script × Step)} {visit : Visit}
    (member : visit ∈ visits lab calls) {device : Nat} {callback : Text}
    (registered : visit.registered? = some (device, callback)) :
    (∃ made, visit.step = .errand made ∧
      Call.request (lab.device device).serial made.watch.unregister [.text callback] ∈
        visit.after.calls) ∨
    ∃ kind, visit.step = .startDiscovery device kind ∧ ∀ later ∈ visits lab calls,
      visit.before.callbacks.length < later.before.callbacks.length →
        later.step = .stopDiscovery device visit.before.callbacks.length →
          Call.request (lab.device device).serial stopDiscoveryRequest [.text callback] ∈
            later.after.calls := by
  cases visit.effect with
  | quiet still =>
    rw [Visit.registered?_of_still still] at registered
    cases registered
  | returned made same callbacks undone =>
    rw [Visit.registered?_of_append callbacks] at registered
    cases registered
    rw [← device_of_visits member]
    exact .inl ⟨made, same, undone⟩
  | kept owner kind same callbacks =>
    have here := Visit.registered?_of_append callbacks
    rw [registered] at here
    cases here
    refine .inr ⟨kind, same, ?_⟩
    intro later inside more stop
    obtain ⟨rest, whole⟩ := prefix_of_later member inside more
    have found : later.before.callbacks[visit.before.callbacks.length]? =
        some (device, visit.before.nextCallback device) := by
      rw [← whole, show visit.after.callbacks = _ from callbacks, List.append_assoc,
        List.getElem?_append_right (Nat.le_refl _), Nat.sub_self]
      rfl
    have ran : later.after = (stopDiscovery device visit.before.callbacks.length later.before).2 := by
      unfold Visit.after
      rw [stop]
      rfl
    rw [ran, calls_stopDiscovery device found, ← device_of_visits inside]
    simp

/-- Every errand, in any lab, takes one of the three courses, and asks for nothing only where its
request cannot be made. In a session that finds no callbacks, a call registers at most one, under a name that is
given once where the devices have a name of its own for each; an errand gives it back itself, and a
discovery that was started is left to whoever stops it. -/
theorem callbacks_custody :
    (∀ (made : Errand) (lab : Lab), made.watch.Course lab (made.act lab).1 (made.act lab).2 ∧
      ∀ fault, made.watch.arguments (lab.device made.watch.device) = .error fault ↔
        made.Unasked (lab.device made.watch.device) fault) ∧
    ∀ (lab : Lab) (calls : List (Script × Step)), lab.handlers = [] →
      ∀ visit ∈ visits lab calls,
        visit.after.callbacks = visit.before.callbacks ++ visit.registered?.toList ∧
        ((∀ place, Function.Injective (lab.device place).callback) → visit.after.callbacks.Nodup) ∧
        ∀ device callback, visit.registered? = some (device, callback) →
          (∃ made, visit.step = .errand made ∧
            Call.request (lab.device device).serial made.watch.unregister [.text callback] ∈
              visit.after.calls) ∨
          ∃ kind, visit.step = .startDiscovery device kind ∧ ∀ later ∈ visits lab calls,
            visit.before.callbacks.length < later.before.callbacks.length →
              later.step = .stopDiscovery device visit.before.callbacks.length →
                Call.request (lab.device device).serial stopDiscoveryRequest [.text callback] ∈
                  later.after.calls := by
  constructor
  · intro made lab
    rw [Errand.act_eq]
    exact ⟨Watch.course_act made.watch lab, fun fault => Errand.arguments_eq_error_iff⟩
  · intro lab calls fresh visit member
    refine ⟨visit.callbacks_after, ?_, ?_⟩
    · intro distinct
      have started := numbered_of_visits distinct (numbered_of_fresh fresh) member
      refine (Visit.numbered_after ?_ started).nodup
      intro place
      rw [device_of_visits member]
      exact distinct place
    · intro device callback registered
      exact custody_of_registered member registered

def sampleLab : Lab :=
  Lab.ofSerials ["S1"] [] 0

def sampleCalls : List (Script × Step) :=
  [({ requestFaults := [(stopDiscoveryRequest, "refused")] },
      .errand (.discovery 0 (.text "_test._udp") (.ofSeconds 5))),
    ({}, .startDiscovery 0 (.text "_test._udp")), ({}, .stopDiscovery 0 1)]

theorem callbacks_custody_sample :
    builtLevel (sampleLab.device 0) = .error (.unknownKey levelKey) ∧
      (∀ place, Function.Injective (sampleLab.device place).callback) ∧
      ∃ visit ∈ visits sampleLab sampleCalls, visit.registered? = some (0, ("1-2" : Text)) ∧
        visit.after.callbacks.Nodup ∧ ∃ later ∈ visits sampleLab sampleCalls,
          Call.request "S1" stopDiscoveryRequest [.text "1-2"] ∈ later.after.calls := by
  have unknown := ((callbacks_custody.1 (.network 0 (.ofSeconds 5)) sampleLab).2 _).mp rfl
  have registered : ((visits sampleLab sampleCalls).get ⟨1, by decide⟩).registered? =
      some (0, ("1-2" : Text)) := by decide
  have member := List.get_mem (visits sampleLab sampleCalls) ⟨1, by decide⟩
  have last := List.get_mem (visits sampleLab sampleCalls) ⟨2, by decide⟩
  have distinct : ∀ place, Function.Injective (sampleLab.device place).callback := by
    intro place
    rcases place with _ | place
    · exact callbackName_injective
    · exact callbackName_injective
  obtain ⟨-, unique, custody⟩ := callbacks_custody.2 sampleLab sampleCalls rfl _ member
  rcases custody 0 "1-2" registered with ⟨made, other, -⟩ | ⟨kind, -, stopped⟩
  · cases other
  · have undone := stopped _ last (by decide) rfl
    exact ⟨unknown, distinct, _, member, registered, unique distinct, _, last, undone⟩

end ThreadLab.Session
