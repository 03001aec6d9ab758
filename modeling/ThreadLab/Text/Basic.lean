namespace ThreadLab

structure CodePoint where
  toNat : Nat
  toNat_lt : toNat < 0x110000
deriving DecidableEq

namespace CodePoint

theorem charCode_lt (c : Char) : c.toNat < 0x110000 := by
  have valid := c.valid
  simp only [UInt32.isValidChar, Nat.isValidChar] at valid
  simp only [Char.toNat]
  omega

def ofChar (c : Char) : CodePoint :=
  ⟨c.toNat, charCode_lt c⟩

instance : Coe Char CodePoint := ⟨ofChar⟩

def ofNat? (code : Nat) : Option CodePoint :=
  if inside : code < 0x110000 then some ⟨code, inside⟩ else none

instance : LE CodePoint := ⟨fun left right => left.toNat ≤ right.toNat⟩

instance (left right : CodePoint) : Decidable (left ≤ right) :=
  inferInstanceAs (Decidable (left.toNat ≤ right.toNat))

def isSurrogate (c : CodePoint) : Bool :=
  0xd800 ≤ c.toNat && c.toNat < 0xe000

def char? (c : CodePoint) : Option Char :=
  if c.isSurrogate then none else some (Char.ofNat c.toNat)

@[simp]
theorem toNat_ofChar (c : Char) : (ofChar c).toNat = c.toNat := rfl

@[simp]
theorem isSurrogate_ofChar (c : Char) : (ofChar c).isSurrogate = false := by
  have valid := c.valid
  simp only [UInt32.isValidChar, Nat.isValidChar] at valid
  rw [Bool.eq_false_iff]
  intro inside
  simp only [isSurrogate, Bool.and_eq_true, decide_eq_true_eq] at inside
  simp only [toNat_ofChar, Char.toNat] at inside
  omega

@[simp]
theorem char?_ofChar (c : Char) : (ofChar c).char? = some c := by
  simp [char?]

end CodePoint

abbrev Text := List CodePoint

namespace Text

def ofChars (row : List Char) : Text :=
  row.map CodePoint.ofChar

def ofString (string : String) : Text :=
  ofChars string.toList

instance : Coe String Text := ⟨ofString⟩

/-- The text as a string, with a replacement character for each surrogate. -/
def display (text : Text) : String :=
  String.ofList (text.map fun c => c.char?.getD '\ufffd')

@[simp]
theorem filterMap_ofChars (row : List Char) : (ofChars row).filterMap CodePoint.char? = row := by
  induction row with
  | nil => rfl
  | cons c row ih =>
    have first := List.filterMap_cons_some (l := row.map CodePoint.ofChar) (CodePoint.char?_ofChar c)
    exact first.trans (congrArg (c :: ·) ih)

@[simp]
theorem display_ofString (string : String) : (ofString string).display = string := by
  simp [display, ofString, ofChars, Function.comp_def]

end Text

end ThreadLab
