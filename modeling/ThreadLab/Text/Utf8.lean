import ThreadLab.Text.Quoted

namespace ThreadLab.Text.Utf8

def encodeChars (row : List Char) : List UInt8 :=
  row.flatMap String.utf8EncodeChar

structure Surrogates where
  first : CodePoint
  place : Nat
  count : Nat
deriving DecidableEq

def Surrogates.message (fault : Surrogates) : Text :=
  let place : Text := toString fault.place
  "'utf-8' codec can't encode character" ++
    (if fault.count = 1 then
      " '" ++ escaped '\'' fault.first ++ "' in position " ++ place
    else
      "s in position " ++ place ++ "-" ++ toString (fault.place + fault.count - 1)) ++
    ": surrogates not allowed"

def surrogates? (text : Text) : Option Surrogates :=
  match text.dropWhile (!·.isSurrogate) with
  | [] => none
  | first :: rest =>
    some ⟨first, (text.takeWhile (!·.isSurrogate)).length,
      (rest.takeWhile (·.isSurrogate)).length + 1⟩

def encode (text : Text) : Except Surrogates (List UInt8) :=
  match surrogates? text with
  | some fault => .error fault
  | none => .ok (encodeChars (text.filterMap CodePoint.char?))

theorem surrogates?_ofChars (row : List Char) : surrogates? (ofChars row) = none := by
  have nothing : (ofChars row).dropWhile (!·.isSurrogate) = [] := by
    induction row with
    | nil => rfl
    | cons c row ih =>
      rw [ofChars, List.map_cons, List.dropWhile_cons, CodePoint.isSurrogate_ofChar]
      exact ih
  simp [surrogates?, nothing]

theorem encode_ofChars (row : List Char) : encode (ofChars row) = .ok (encodeChars row) := by
  simp [encode, surrogates?_ofChars]

def tailBits? (byte : UInt8) : Option Nat :=
  if 0x80 ≤ byte.toNat ∧ byte.toNat < 0xc0 then some (byte.toNat - 0x80) else none

/-- The character of a code point that needs at least `least` in its length of encoding. -/
def character? (least code : Nat) : Option Char :=
  if least ≤ code ∧ code.isValidChar then some (Char.ofNat code) else none

def pair? (a b : UInt8) : Option Char := do
  if 0xc0 ≤ a.toNat ∧ a.toNat < 0xe0 then
    character? 0x80 ((a.toNat - 0xc0) * 64 + (← tailBits? b))
  else none

def triple? (a b c : UInt8) : Option Char := do
  if 0xe0 ≤ a.toNat ∧ a.toNat < 0xf0 then
    character? 0x800 (((a.toNat - 0xe0) * 64 + (← tailBits? b)) * 64 + (← tailBits? c))
  else none

def quadruple? (a b c d : UInt8) : Option Char := do
  if 0xf0 ≤ a.toNat ∧ a.toNat < 0xf8 then
    character? 0x10000
      ((((a.toNat - 0xf0) * 64 + (← tailBits? b)) * 64 + (← tailBits? c)) * 64 + (← tailBits? d))
  else none

/-- The characters that begin `bytes`, or the offset of the first sequence that is none, counted
from `offset`. -/
def decodeFrom (offset : Nat) : List UInt8 → Except Nat (List Char)
  | [] => .ok []
  | a :: rest =>
    if a.toNat < 0x80 then (Char.ofNat a.toNat :: ·) <$> decodeFrom (offset + 1) rest
    else match rest with
      | [] => .error offset
      | b :: rest => match pair? a b with
        | some found => (found :: ·) <$> decodeFrom (offset + 2) rest
        | none => match rest with
          | [] => .error offset
          | c :: rest => match triple? a b c with
            | some found => (found :: ·) <$> decodeFrom (offset + 3) rest
            | none => match rest with
              | [] => .error offset
              | d :: rest => match quadruple? a b c d with
                | some found => (found :: ·) <$> decodeFrom (offset + 4) rest
                | none => .error offset

def decode (bytes : List UInt8) : Except Nat Text :=
  ofChars <$> decodeFrom 0 bytes

end ThreadLab.Text.Utf8
