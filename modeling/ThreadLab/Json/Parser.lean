import ThreadLab.Binary64.Nearest
import ThreadLab.Json.Basic
import ThreadLab.Text.Numeral

namespace ThreadLab.Json

def isSpace (c : Char) : Bool :=
  c == ' ' || c == '\t' || c == '\n' || c == '\r'

def skipSpace (text : List Char) : List Char :=
  text.dropWhile isSpace

def readUnit? : List Char → Option (Nat × List Char)
  | a :: b :: c :: d :: rest => do
    let row ← (Text.ofChars [a, b, c, d]).mapM Text.hexValue?
    return (Positional.ofDigits 16 row, rest)
  | _ => none

def letterEscape? (letter : Char) : Option Char :=
  match letter with
  | 'n' => some '\n'
  | 't' => some '\t'
  | 'r' => some '\r'
  | 'b' => some '\x08'
  | 'f' => some '\x0c'
  | '"' | '\\' | '/' => some letter
  | _ => none

/-- The second of two escapes that stand for one character, whose first is `high`. -/
def readPair? (high : Nat) (text : List Char) : Option (CodePoint × List Char) :=
  match text with
  | '\\' :: 'u' :: rest => do
    let (low, rest) ← readUnit? rest
    if 0xd800 ≤ high ∧ high < 0xdc00 ∧ 0xdc00 ≤ low ∧ low < 0xe000 then
      let c ← CodePoint.ofNat? (0x10000 + (high - 0xd800) * 0x400 + (low - 0xdc00))
      return (c, rest)
    else none
  | _ => none

def readEscape? : List Char → Option (CodePoint × List Char)
  | 'u' :: rest => do
    let (unit, rest) ← readUnit? rest
    match readPair? unit rest with
    | some pair => return pair
    | none => return (← CodePoint.ofNat? unit, rest)
  | letter :: rest => (letterEscape? letter).map fun c => (CodePoint.ofChar c, rest)
  | [] => none

/-- The text up to the closing quote; `fuel` bounds its length. -/
def readText? : Nat → List Char → Option (Text × List Char)
  | 0, _ => none
  | fuel + 1, input =>
    match input with
    | [] => none
    | '"' :: rest => some ([], rest)
    | '\\' :: rest => do
      let (c, rest) ← readEscape? rest
      let (body, rest) ← readText? fuel rest
      return (c :: body, rest)
    | c :: rest => do
      let (body, rest) ← readText? fuel rest
      return (CodePoint.ofChar c :: body, rest)

def isNumberPart (c : Char) : Bool :=
  c.isDigit || c == '-' || c == '+' || c == '.' || c == 'e' || c == 'E'

def naturalOf (digits : List Char) : Nat :=
  Positional.ofDigits 10 (digits.map fun c => c.toNat - '0'.toNat)

def integerOf : List Char → Int
  | '-' :: digits => -(naturalOf digits : Int)
  | '+' :: digits => naturalOf digits
  | digits => naturalOf digits

def isExponentMark (c : Char) : Bool :=
  c == 'e' || c == 'E'

def numberOf (literal : List Char) : Json :=
  if literal.any fun c => c == '.' || isExponentMark c then
    let mantissa := literal.takeWhile (!isExponentMark ·)
    let exponent := integerOf ((literal.dropWhile (!isExponentMark ·)).drop 1)
    let whole := (mantissa.takeWhile (· ≠ '.')).filter Char.isDigit
    let fraction := (mantissa.dropWhile (· ≠ '.')).drop 1
    real (.ofDecimal (literal.head? == some '-') (naturalOf (whole ++ fraction))
      (exponent - fraction.length))
  else integer (integerOf literal)

def numberWords : List (List Char × Binary64) :=
  [("NaN".toList, .nan), ("Infinity".toList, .infinite false),
    ("-Infinity".toList, .infinite true)]

def readNumberWord? (text : List Char) : Option (Json × List Char) :=
  numberWords.findSome? fun (word, number) =>
    if word.isPrefixOf text then some (real number, text.drop word.length) else none

mutual

/-- The value that begins a text, and the text after it; `fuel` bounds the depth of calls. -/
def readValue? : Nat → List Char → Option (Json × List Char)
  | 0, _ => none
  | fuel + 1, input =>
    match skipSpace input with
    | 'n' :: 'u' :: 'l' :: 'l' :: rest => some (null, rest)
    | 't' :: 'r' :: 'u' :: 'e' :: rest => some (bool true, rest)
    | 'f' :: 'a' :: 'l' :: 's' :: 'e' :: rest => some (bool false, rest)
    | '"' :: rest => do
      let (body, rest) ← readText? (rest.length + 1) rest
      return (.text body, rest)
    | '[' :: rest =>
      match skipSpace rest with
      | ']' :: rest => some (array [], rest)
      | rest => do
        let (items, rest) ← readItems? fuel rest
        return (array items, rest)
    | '\x7b' :: rest =>
      match skipSpace rest with
      | '\x7d' :: rest => some (object [], rest)
      | rest => do
        let (fields, rest) ← readFields? fuel rest
        return (object fields, rest)
    | rest =>
      match readNumberWord? rest with
      | some found => some found
      | none =>
        match rest.takeWhile isNumberPart with
        | [] => none
        | literal => some (numberOf literal, rest.dropWhile isNumberPart)

def readItems? : Nat → List Char → Option (List Json × List Char)
  | 0, _ => none
  | fuel + 1, input => do
    let (item, rest) ← readValue? fuel input
    match skipSpace rest with
    | ',' :: rest =>
      let (items, rest) ← readItems? fuel rest
      return (item :: items, rest)
    | ']' :: rest => return ([item], rest)
    | _ => none

def readFields? : Nat → List Char → Option (List (Text × Json) × List Char)
  | 0, _ => none
  | fuel + 1, input => do
    match skipSpace input with
    | '"' :: rest =>
      let (key, rest) ← readText? (rest.length + 1) rest
      match skipSpace rest with
      | ':' :: rest =>
        let (value, rest) ← readValue? fuel rest
        let field := (key, value)
        match skipSpace rest with
        | ',' :: rest =>
          let (fields, rest) ← readFields? fuel rest
          return (field :: fields, rest)
        | '\x7d' :: rest => return ([field], rest)
        | _ => none
      | _ => none
    | _ => none

end

def parse? (text : String) : Option Json := do
  let (value, rest) ← readValue? (2 * text.length + 2) text.toList
  if skipSpace rest = [] then return value else none

end ThreadLab.Json
