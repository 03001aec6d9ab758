import ThreadLab.Session.Discovery
import ThreadLab.Session.Network
import ThreadLab.Session.Role

namespace ThreadLab

/-- Whether a fault comes of a wait or of the helper on the device. -/
def Fault.isOfWait : Fault → Bool
  | .expired _ | .snippet .. => true
  | _ => false

variable {α β ε : Type}

def OfData (result : Except Fault α) : Prop :=
  ∀ fault, result = .error fault → fault.isOfWait = false

theorem ofData_ok (value : α) : OfData (.ok value) := nofun

theorem ofData_error {fault : Fault} (known : fault.isOfWait = false) :
    OfData (.error fault : Except Fault α) := by
  rintro _ ⟨⟩
  exact known

theorem ofData_field (data : Json) (key : Text) : OfData (Event.field data key) := by
  unfold Event.field
  split
  · split
    · exact ofData_ok _
    · exact ofData_error rfl
  · exact ofData_error rfl

namespace Service.Info

end Service.Info

namespace Session

end Session

end ThreadLab
