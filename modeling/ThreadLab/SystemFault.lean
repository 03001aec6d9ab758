import ThreadLab.Text.Basic

namespace ThreadLab

structure SystemFault where
  number : Int
  text : Text
deriving DecidableEq

namespace SystemFault

inductive Kind where
  | blocked
  | brokenPipe
  | noChild
  | connectionAborted
  | connectionRefused
  | connectionReset
  | fileExists
  | fileNotFound
  | interrupted
  | isDirectory
  | noDirectory
  | denied
  | noProcess
  | timedOut
  | other
deriving DecidableEq

/-- The kind of an error number, as Linux counts errors. -/
def kind (fault : SystemFault) : Kind :=
  match fault.number with
  | 1 | 13 => .denied
  | 2 => .fileNotFound
  | 3 => .noProcess
  | 4 => .interrupted
  | 10 => .noChild
  | 11 | 114 | 115 => .blocked
  | 17 => .fileExists
  | 20 => .noDirectory
  | 21 => .isDirectory
  | 32 | 108 => .brokenPipe
  | 103 => .connectionAborted
  | 104 => .connectionReset
  | 110 => .timedOut
  | 111 => .connectionRefused
  | _ => .other

def message (fault : SystemFault) : Text :=
  "[Errno " ++ toString fault.number ++ "] " ++ fault.text

end SystemFault

end ThreadLab
