import ThreadLab.Ip.V6.Parser
import ThreadLab.Ip.V6.Printer
import ThreadLab.Json.Text

namespace ThreadLab.Ip

namespace V6

/-- Whole numbers are addresses, and of all other values the text is read. -/
def ofJson (value : Json) : Except Fault V6 :=
  match value.integer? with
  | some number => ofInteger number
  | none =>
    if ('/' : CodePoint) ∈ value.plain then .error (.slash value.shown) else parse value.plain

@[simp]
theorem ofJson_text (text : Text) : ofJson (.text text) = parse text := by
  by_cases slashed : ('/' : CodePoint) ∈ text <;>
    simp [ofJson, Json.integer?, Json.plain, Json.shown, parse, slashed]

end V6

inductive Reference where
  | reported (value : Json)
  | known (address : V6)

namespace Reference

def address : Reference → Except V6.Fault V6
  | reported value => V6.ofJson value
  | known address => .ok address

def json : Reference → Json
  | reported value => value
  | known address => .text address.text

end Reference

end ThreadLab.Ip
