import ThreadLab.Text.Numeral
import ThreadLab.Text.Printable

namespace ThreadLab.Text

/-- A single quote, unless the text holds one and no double quote. -/
def quoteMark (text : Text) : CodePoint :=
  if ('\'' : CodePoint) ∈ text ∧ ('"' : CodePoint) ∉ text then '"' else '\''

def escaped (mark c : CodePoint) : Text :=
  if c = mark ∨ c = '\\' then ['\\', c]
  else if c = '\n' then ['\\', 'n']
  else if c = '\r' then ['\\', 'r']
  else if c = '\t' then ['\\', 't']
  else if isPrintable c then [c]
  else if c.toNat < 0x100 then "\\x" ++ hexDigits 2 c.toNat
  else if c.toNat < 0x10000 then "\\u" ++ hexDigits 4 c.toNat
  else "\\U" ++ hexDigits 8 c.toNat

def quoted (text : Text) : Text :=
  let mark := quoteMark text
  mark :: text.flatMap (escaped mark) ++ [mark]

end ThreadLab.Text
