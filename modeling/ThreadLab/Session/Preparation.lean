import ThreadLab.Session.Act

namespace ThreadLab.Session

def wakeScreen (device : Nat) : Act Unit := do
  let _ ← Act.shell device "svc power stayon true"
  let _ ← Act.shell device "input keyevent KEYCODE_WAKEUP"
  let _ ← Act.shell device "wm dismiss-keyguard"

def prepare (device : Nat) : Act Unit := do
  let serial := (← Act.device device).serial
  Act.record (.load serial "thread" Settings.snippetPackage)
  wakeScreen device

end ThreadLab.Session
