import ThreadLab.Packet.Filter
import ThreadLab.Proofs.Ip.Address
import ThreadLab.Session.Interface
import ThreadLab.Udp

namespace ThreadLab

/-- What stands for an IPv6 address. -/
inductive Ip.Reference.Means : Ip.Reference → Ip.V6 → Prop
  | known (address : Ip.V6) : Means (.known address) address
  | spelled {text : Text} {address : Ip.V6} (spells : Ip.V6.Spells text address) :
    Means (.reported (.text text)) address

inductive Udp.Receiver.Means : Udp.Receiver → Ip.Address → Prop
  | known (address : Ip.Address) : Means (.known address) address
  | dotted (address : Ip.V4) : Means (.reported (.text address.text)) (.v4 address)
  | spelled {text : Text} {address : Ip.V6} (spells : Ip.V6.Spells text address) :
    Means (.reported (.text text)) (.v6 address)

section

variable {reference : Ip.Reference} {address : Ip.V6}

theorem Ip.Reference.address_of_means (means : reference.Means address) :
    reference.address = .ok address := by
  cases means with
  | known => rfl
  | spelled spells => exact (Ip.V6.ofJson_text _).trans (Ip.V6.parse_eq_ok_iff.mpr spells)

theorem Ip.Reference.ofJson_of_means (means : reference.Means address) :
    Ip.V6.ofJson reference.json = .ok address := by
  cases means with
  | known => exact (Ip.V6.ofJson_text _).trans (Ip.V6.parse_text address)
  | spelled spells => exact (Ip.V6.ofJson_text _).trans (Ip.V6.parse_eq_ok_iff.mpr spells)

theorem Packet.headerAddressIs_of_means (means : reference.Means address)
    (select : Packet.Ipv6Header → Ip.V6) (packet : Option Bytes) :
    Packet.headerAddressIs select packet reference =
      Packet.headerAddressIs select packet (.known address) := by
  unfold Packet.headerAddressIs
  rw [Ip.Reference.address_of_means means, Ip.Reference.address_of_means (.known address)]

theorem Session.isInGroup_of_means (means : reference.Means address) (device : Nat)
    (interface : Text) :
    Session.isInGroup device interface reference =
      Session.isInGroup device interface (.known address) := by
  unfold Session.isInGroup
  rw [Ip.Reference.ofJson_of_means means, Ip.Reference.ofJson_of_means (.known address)]

end

theorem Udp.Receiver.address_of_means {receiver : Udp.Receiver} {address : Ip.Address}
    (means : receiver.Means address) : receiver.address = .ok address := by
  have read : Ip.Address.ofJson? receiver.json = some address := by
    cases means with
    | known => exact Ip.Address.ofText?_text address
    | dotted address => exact Ip.Address.ofText?_text (.v4 address)
    | spelled spells => exact Ip.Address.ofText?_of_v6 (Ip.V6.parse_eq_ok_iff.mpr spells)
  unfold Udp.Receiver.address
  rw [read]

theorem Udp.send_of_means {receiver : Udp.Receiver} {address : Ip.Address}
    (means : receiver.Means address) (port message : Json) (failure : Option Udp.Failure) :
    Udp.send receiver port message failure = Udp.send (.known address) port message failure := by
  unfold Udp.send
  rw [Udp.Receiver.address_of_means means, Udp.Receiver.address_of_means (.known address)]

/-- Of two forms of one address, each passes the same packets, is found in the same listings by the
same command, and is sent to by the same calls. -/
theorem form_irrelevant :
    (∀ {left right : Ip.Reference} {address : Ip.V6}, left.Means address → right.Means address →
      (∀ packet : Option Bytes, Packet.isFrom packet left = Packet.isFrom packet right ∧
        Packet.isTo packet left = Packet.isTo packet right) ∧
      ∀ (device : Nat) (interface : Text) (lab : Lab),
        Session.isInGroup device interface left lab =
          Session.isInGroup device interface right lab) ∧
    ∀ {left right : Udp.Receiver} {address : Ip.Address}, left.Means address →
      right.Means address → ∀ (port message : Json) (failure : Option Udp.Failure),
        Udp.send left port message failure = Udp.send right port message failure := by
  constructor
  · intro left right address leftMeans rightMeans
    constructor
    · intro packet
      constructor
      · have here := Packet.headerAddressIs_of_means leftMeans Packet.Ipv6Header.source packet
        exact here.trans (Packet.headerAddressIs_of_means rightMeans _ packet).symm
      · have here := Packet.headerAddressIs_of_means leftMeans Packet.Ipv6Header.destination packet
        exact here.trans (Packet.headerAddressIs_of_means rightMeans _ packet).symm
    · intro device interface lab
      rw [Session.isInGroup_of_means leftMeans, Session.isInGroup_of_means rightMeans]
  · intro left right address leftMeans rightMeans port message failure
    rw [Udp.send_of_means leftMeans, Udp.send_of_means rightMeans]

def linkLocal : Ip.V6 :=
  ⟨0xfe80 <<< 112 + 1, some ⟨"eth0", by decide, by decide, by decide⟩, by decide⟩

def documented : Ip.V4 :=
  ⟨0xc0000201, by decide⟩

theorem form_irrelevant_sample :
    Ip.Reference.Means (.reported (.text "FE80:0000::0.0.0.1%eth0")) linkLocal ∧
      Udp.Receiver.Means (.reported (.text "192.0.2.1")) (.v4 documented) ∧
      (∀ lab, Session.isInGroup 0 "eth0" (.reported (.text "FE80:0000::0.0.0.1%eth0")) lab =
        Session.isInGroup 0 "eth0" (.known linkLocal) lab) ∧
      Udp.send (.reported (.text "192.0.2.1")) (.integer 12345) (.text "ping") none =
        Udp.send (.known (.v4 documented)) (.integer 12345) (.text "ping") none := by
  have spells : Ip.V6.Spells "FE80:0000::0.0.0.1%eth0" linkLocal :=
    Ip.V6.parse_eq_ok_iff.mp (by decide)
  have dotted : Udp.Receiver.Means (.reported (.text "192.0.2.1")) (.v4 documented) :=
    .dotted documented
  refine ⟨.spelled spells, dotted, fun lab => ?_, ?_⟩
  · exact (form_irrelevant.1 (.spelled spells) (.known linkLocal)).2 0 "eth0" lab
  · exact form_irrelevant.2 dotted (.known (.v4 documented)) _ _ none

end ThreadLab
