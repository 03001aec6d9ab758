import ThreadLab.Ip.V4
import ThreadLab.Ip.V6.Basic

namespace ThreadLab.Ip.V6

/-- Why a text or a number is no IPv6 address: `whole` is the text without its scope, and `part`
lies between two of its colons. -/
inductive Fault where
  | negative (number : Int)
  | tooLarge (number : Int)
  | slash (shown : Text)
  | scope (text : Text)
  | empty
  | fewParts (whole : Text)
  | dottedTail (cause : V4.Fault) (whole : Text)
  | manyParts (whole : Text)
  | manyGaps (whole : Text)
  | leadingColon (whole : Text)
  | trailingColon (whole : Text)
  | idleGap (whole : Text)
  | partCount (whole : Text)
  | notHex (part whole : Text)
  | longPart (part whole : Text)
deriving DecidableEq

def Fault.message : Fault → Text
  | negative number => toString number ++ " (< 0) is not permitted as an IPv6 address"
  | tooLarge number => toString number ++ " (>= 2**128) is not permitted as an IPv6 address"
  | slash shown => "Unexpected '/' in " ++ shown
  | scope text => "Invalid IPv6 address: \"" ++ Text.quoted text ++ "\""
  | empty => "Address cannot be empty"
  | fewParts whole => "At least 3 parts expected in " ++ Text.quoted whole
  | dottedTail cause whole => cause.message ++ " in " ++ Text.quoted whole
  | manyParts whole => "At most 8 colons permitted in " ++ Text.quoted whole
  | manyGaps whole => "At most one '::' permitted in " ++ Text.quoted whole
  | leadingColon whole => "Leading ':' only permitted as part of '::' in " ++ Text.quoted whole
  | trailingColon whole => "Trailing ':' only permitted as part of '::' in " ++ Text.quoted whole
  | idleGap whole => "Expected at most 7 other parts with '::' in " ++ Text.quoted whole
  | partCount whole => "Exactly 8 parts expected without '::' in " ++ Text.quoted whole
  | notHex part whole =>
    "Only hex digits permitted in " ++ Text.quoted part ++ " in " ++ Text.quoted whole
  | longPart part whole =>
    "At most 4 characters permitted in " ++ Text.quoted part ++ " in " ++ Text.quoted whole

def expandTail (whole : Text) (parts : List Text) : Except Fault (List Text) :=
  match parts.getLast? with
  | none => .ok parts
  | some tail =>
    if ('.' : CodePoint) ∈ tail then
      match V4.parse tail with
      | .error cause => .error (.dottedTail cause whole)
      | .ok dotted =>
        .ok (parts.dropLast ++ [Text.numeral 16 4 (dotted.value / 65536),
          Text.numeral 16 4 (dotted.value % 65536)])
    else .ok parts

/-- The places of the empty parts that are neither first nor last. -/
def gaps (parts : List Text) : List Nat :=
  (List.range parts.length).filter fun place =>
    0 < place && place + 1 < parts.length && parts[place]? == some []

/-- The parts before a gap: an empty one may only stand alone. -/
def beforeGap (whole : Text) (parts : List Text) : Except Fault (List Text) :=
  if parts.head? = some [] then
    if parts.length = 1 then .ok [] else .error (.leadingColon whole)
  else .ok parts

def afterGap (whole : Text) (parts : List Text) : Except Fault (List Text) :=
  if parts.getLast? = some [] then
    if parts.length = 1 then .ok [] else .error (.trailingColon whole)
  else .ok parts

/-- The parts that name groups from the front and those that name groups up to the end. -/
def arrange (whole : Text) (parts : List Text) : Except Fault (List Text × List Text) :=
  match gaps parts with
  | [] =>
    if parts.length ≠ 8 then .error (.partCount whole)
    else if parts.head? = some [] then .error (.leadingColon whole)
    else if parts.getLast? = some [] then .error (.trailingColon whole)
    else .ok (parts, [])
  | [gap] => do
    let front ← beforeGap whole (parts.take gap)
    let back ← afterGap whole (parts.drop (gap + 1))
    if 7 < front.length + back.length then .error (.idleGap whole) else .ok (front, back)
  | _ => .error (.manyGaps whole)

def readGroup (whole part : Text) : Except Fault Nat :=
  match part.mapM Text.hexValue? with
  | none => .error (.notHex part whole)
  | some row =>
    if 4 < part.length then .error (.longPart part whole)
    else .ok (Positional.ofDigits 16 row)

def readGroups (whole : Text) : Except Fault (List Nat) :=
  if whole = [] then .error .empty
  else
    let parts := Text.splitAt ':' whole
    if parts.length < 3 then .error (.fewParts whole)
    else do
      let parts ← expandTail whole parts
      if 9 < parts.length then .error (.manyParts whole)
      else do
        let (front, back) ← arrange whole parts
        let high ← front.mapM (readGroup whole)
        let low ← back.mapM (readGroup whole)
        return high ++ List.replicate (8 - high.length - low.length) 0 ++ low

def splitScope (text : Text) : Except Fault (Text × Option Scope) :=
  let whole := text.takeWhile (· ≠ scopeMark)
  match text.dropWhile (· ≠ scopeMark) with
  | [] => .ok (whole, none)
  | _ :: tail =>
    match Scope.ofText? tail with
    | some scope => .ok (whole, some scope)
    | none => .error (.scope text)

def parse (text : Text) : Except Fault V6 :=
  if ('/' : CodePoint) ∈ text then .error (.slash (Text.quoted text))
  else do
    let (whole, scope) ← splitScope text
    let groups ← readGroups whole
    return { ofGroups groups with scope := scope }

def ofInteger (number : Int) : Except Fault V6 :=
  if negative : number < 0 then .error (.negative number)
  else if fits : number < (1 <<< 128 : Nat) then .ok ⟨number.toNat, none, by omega⟩
  else .error (.tooLarge number)

end ThreadLab.Ip.V6
