import ThreadLab.Text.Split

namespace ThreadLab.Text

/-- The white space of Unicode together with the four information separators of ASCII. -/
def isBlank (c : CodePoint) : Bool :=
  let code := c.toNat
  (9 ≤ code && code ≤ 13) || (0x1c ≤ code && code ≤ 0x20) || code == 0x85 || code == 0xa0 ||
    code == 0x1680 || (0x2000 ≤ code && code ≤ 0x200a) || code == 0x2028 || code == 0x2029 ||
    code == 0x202f || code == 0x205f || code == 0x3000

def words (text : Text) : List Text :=
  (split isBlank text).filter (· ≠ [])

end ThreadLab.Text
