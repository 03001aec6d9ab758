import ThreadLab.Proofs.Ip.Form

namespace ThreadLab.Udp

theorem Receiver.address_eq_ok_iff {text : Text} {address : Ip.Address} :
    (reported (.text text)).address = .ok address ↔ (reported (.text text)).Means address := by
  constructor
  · intro read
    have found : Ip.Address.ofText? text = some address := by
      unfold Receiver.address at read
      split at read
      · rename_i known
        cases read
        exact known
      · cases read
    cases Ip.Address.ofText?_eq_some_iff.mp found with
    | dotted address => exact .dotted address
    | grouped spells => exact .spelled spells
  · exact address_of_means

theorem Receiver.address_of_meaningless {text : Text}
    (meaningless : ∀ address, ¬(reported (.text text)).Means address) :
    (reported (.text text)).address = .error (.noAddress (.text text)) := by
  have unread : Ip.Address.ofJson? (reported (.text text)).json = none := by
    cases known : Ip.Address.ofJson? (reported (.text text)).json with
    | none => rfl
    | some address =>
      have read : (reported (.text text)).address = .ok address := by
        unfold Receiver.address
        rw [known]
      exact absurd (address_eq_ok_iff.mp read) (meaningless address)
  unfold Receiver.address
  rw [unread]
  rfl

theorem payload_text (message : String) :
    payload (.text message) = .ok message.toUTF8.data.toList := by
  have bytes : Text.Utf8.encodeChars message.toList = message.toUTF8.data.toList := by
    show _ = message.toByteArray.data.toList
    rw [← String.utf8Encode_toList]
    simp [List.utf8Encode, Text.Utf8.encodeChars]
  rw [payload, Text.ofString, Text.Utf8.encode_ofChars, bytes]
  rfl

def callsTo (address : Ip.Address) (port : Json) (bytes : Bytes) : Stage → List Call
  | .creating => [.create (family address)]
  | .connecting => [.create (family address), .connect address.text port]
  | .sending => [.create (family address), .connect address.text port, .send bytes]

/-- What sending `bytes` to an address comes to: the calls that are made, and the result. -/
inductive Course (address : Ip.Address) (port : Json) (bytes : Bytes) :
    Option Failure → List Call → Except Fault Unit → Prop
  | sent : Course address port bytes none (callsTo address port bytes .sending ++ [.close]) (.ok ())
  | notOpened (fault : SystemFault) : Course address port bytes (some ⟨.creating, fault⟩)
    (callsTo address port bytes .creating) (.error (.system fault))
  | brokenOff {stage : Stage} (opened : stage ≠ .creating) (fault : SystemFault) :
    Course address port bytes (some ⟨stage, fault⟩) (callsTo address port bytes stage ++ [.close])
      (.error (.system fault))

def Unopened (failure : Option Failure) : Prop :=
  failure.map Failure.stage = some .creating

instance (failure : Option Failure) : Decidable (Unopened failure) :=
  inferInstanceAs (Decidable (_ = _))

def ClosedLast (calls : List Call) : Prop :=
  ∃ made, calls = made ++ [.close] ∧ .close ∉ made

section

variable {address : Ip.Address} {port : Json} {bytes : Bytes}

theorem close_not_mem_callsTo (stage : Stage) : .close ∉ callsTo address port bytes stage := by
  cases stage <;> simp [callsTo]

/-- A socket is closed exactly where it was opened. -/
theorem Course.closes {failure : Option Failure} {calls : List Call} {result : Except Fault Unit}
    (course : Course address port bytes failure calls result) :
    if Unopened failure then .close ∉ calls else ClosedLast calls := by
  cases course with
  | sent =>
    rw [if_neg (by decide)]
    exact ⟨_, rfl, close_not_mem_callsTo _⟩
  | notOpened fault =>
    rw [if_pos (show Unopened (some ⟨.creating, fault⟩) from rfl)]
    exact close_not_mem_callsTo _
  | @brokenOff stage opened fault =>
    have other : ¬Unopened (some ⟨stage, fault⟩) := fun same => opened (Option.some.inj same)
    rw [if_neg other]
    exact ⟨_, rfl, close_not_mem_callsTo _⟩

theorem family_eq_inet6_iff : family address = .inet6 ↔ address.version = 6 := by
  cases address <;> simp [family, Ip.Address.version]

theorem course_send (address : Ip.Address) (port : Json) (message : String)
    (failure : Option Failure) :
    Course address port message.toUTF8.data.toList failure
      (send (.known address) port (.text message) failure).1
      (send (.known address) port (.text message) failure).2 := by
  have read := Receiver.address_of_means (.known address)
  have encoded := payload_text message
  unfold send exchange
  rw [read, encoded]
  rcases failure with _ | ⟨stage, fault⟩
  · exact .sent
  · cases stage with
    | creating => exact .notOpened fault
    | connecting => exact .brokenOff (by decide) fault
    | sending => exact .brokenOff (by decide) fault

end

/-- Without an address nothing is called. With one, the calls are made in order up to the one that
fails, and the result is the fault of that one; a socket that was opened is closed after them, once.
The address decides the kind of the socket. -/
theorem send_course :
    (∀ text : Text, (∀ address, ¬(Receiver.reported (.text text)).Means address) →
      ∀ (port message : Json) (failure : Option Failure),
        send (.reported (.text text)) port message failure = ([], .error (.noAddress (.text text)))) ∧
    ∀ (receiver : Receiver) (address : Ip.Address), receiver.Means address →
      (family address = .inet6 ↔ address.version = 6) ∧
      ∀ (port : Json) (message : String) (failure : Option Failure),
        let (calls, result) := send receiver port (.text message) failure
        Course address port message.toUTF8.data.toList failure calls result ∧
          if Unopened failure then .close ∉ calls
          else ClosedLast calls := by
  constructor
  · intro text meaningless port message failure
    unfold send
    rw [Receiver.address_of_meaningless meaningless]
  · intro receiver address means
    refine ⟨family_eq_inet6_iff, fun port message failure => ?_⟩
    rw [send_of_means means]
    have course := course_send address port message failure
    exact ⟨course, course.closes⟩

def refusal : SystemFault :=
  ⟨111, "Connection refused"⟩

theorem send_course_refused :
    Receiver.Means (.reported (.text "FE80:0000::0.0.0.1%eth0")) (.v6 linkLocal) ∧
      (∀ address, ¬Receiver.Means (.reported (.text "192.0.2.01")) address) ∧
      (let (calls, result) := send (.reported (.text "FE80:0000::0.0.0.1%eth0")) (.integer 12345)
        (.text "ping é") (some ⟨.connecting, refusal⟩)
      Course (.v6 linkLocal) (.integer 12345) [112, 105, 110, 103, 32, 195, 169]
        (some ⟨.connecting, refusal⟩) calls result ∧ ClosedLast calls) ∧
      send (.reported (.text "192.0.2.01")) (.integer 12345) (.text "ping") none =
        ([], .error (.noAddress (.text "192.0.2.01"))) := by
  have means : Receiver.Means (.reported (.text "FE80:0000::0.0.0.1%eth0")) (.v6 linkLocal) :=
    .spelled (Ip.V6.parse_eq_ok_iff.mp (by decide))
  have meaningless : ∀ address, ¬Receiver.Means (.reported (.text "192.0.2.01")) address := by
    intro address means
    have read := Receiver.address_of_means means
    cases read
  obtain ⟨course, closed⟩ := (send_course.2 _ _ means).2 (.integer 12345) "ping é"
    (some ⟨.connecting, refusal⟩)
  refine ⟨means, meaningless, ⟨course, ?_⟩, send_course.1 _ meaningless _ _ none⟩
  rwa [if_neg (by decide)] at closed

end ThreadLab.Udp
