import ThreadLab.Text.Basic

namespace ThreadLab.Text

/-- The pieces between the characters where `stop` holds: always one more than there are such
characters, and pieces may be empty. -/
def split (stop : CodePoint → Bool) : Text → List Text
  | [] => [[]]
  | c :: text => if stop c then [] :: split stop text else (split stop text).modifyHead (c :: ·)

def splitAt (mark : CodePoint) (text : Text) : List Text :=
  split (· == mark) text

def lines (text : Text) : List Text :=
  splitAt '\n' text

def join (mark : CodePoint) : List Text → Text
  | [] => []
  | [piece] => piece
  | piece :: pieces => piece ++ mark :: join mark pieces

theorem split_ne_nil (stop : CodePoint → Bool) (text : Text) : split stop text ≠ [] := by
  induction text with
  | nil => simp [split]
  | cons c text ih =>
    rw [split]
    split
    · simp
    · cases pieces : Text.split stop text with
      | nil => exact absurd pieces ih
      | cons piece pieces => simp

theorem split_append_cons {stop : CodePoint → Bool} {c : CodePoint} (stops : stop c = true)
    (left right : Text) :
    split stop (left ++ c :: right) = split stop left ++ split stop right := by
  induction left with
  | nil => simp [split, stops]
  | cons d left ih =>
    simp only [List.cons_append, split, ih]
    split
    · rfl
    · cases pieces : Text.split stop left with
      | nil => exact absurd pieces (split_ne_nil stop left)
      | cons piece pieces => simp

theorem split_eq_singleton {stop : CodePoint → Bool} {text : Text}
    (never : ∀ c ∈ text, stop c = false) : split stop text = [text] := by
  induction text with
  | nil => rfl
  | cons c text ih =>
    have rest := ih fun d member => never d (List.mem_cons_of_mem _ member)
    have first := never c (by simp)
    simp [split, rest, first]

end ThreadLab.Text
