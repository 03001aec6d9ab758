import ThreadLab.Base64

namespace ThreadLab.Base64

def isLetter (c : CodePoint) : Bool :=
  (value? c).isSome

def letterCount (text : Text) : Nat :=
  text.countP isLetter

def closingPads (text : Text) : Nat :=
  (text.reverse.takeWhile fun c => !isLetter c).count ('=' : CodePoint)

def Closed (text : Text) : Prop :=
  2 ≤ letterCount text % 4 ∧ 4 ≤ letterCount text % 4 + closingPads text

instance (text : Text) : Decidable (Closed text) :=
  inferInstanceAs (Decidable (_ ∧ _))

def IsAscii (text : Text) : Prop :=
  ∀ c ∈ text, c.toNat < 128

instance (text : Text) : Decidable (IsAscii text) :=
  inferInstanceAs (Decidable (∀ c ∈ text, c.toNat < 128))

/-- Every group is complete, or what follows a group that pads close is left out. -/
def Accepted (text : Text) : Prop :=
  IsAscii text ∧ (letterCount text % 4 = 0 ∨ ∃ front, front <+: text ∧ Closed front)

/-- Why a text is not accepted: a character beyond ASCII goes before all else, and the letters are
counted where a group has one only. -/
inductive Refused (text : Text) : Fault → Prop
  | notAscii (foreign : ¬IsAscii text) : Refused text .notAscii
  | lonelyLetter (ascii : IsAscii text) (unclosed : ∀ front, front <+: text → ¬Closed front)
    (lonely : letterCount text % 4 = 1) : Refused text (.lonelyLetter (letterCount text))
  | unfinishedGroup (ascii : IsAscii text) (unclosed : ∀ front, front <+: text → ¬Closed front)
    (unfinished : 2 ≤ letterCount text % 4) : Refused text .unfinishedGroup

theorem isLetter_pad : isLetter '=' = false := by
  decide

theorem letterCount_append (front text : Text) :
    letterCount (front ++ text) = letterCount front + letterCount text :=
  List.countP_append

section

variable {front : Text} {c : CodePoint}

theorem letterCount_letter (letter : isLetter c = true) :
    letterCount (front ++ [c]) = letterCount front + 1 := by
  rw [letterCount_append, letterCount, letterCount, List.countP_singleton, if_pos letter]

theorem letterCount_other (other : isLetter c = false) :
    letterCount (front ++ [c]) = letterCount front := by
  rw [letterCount_append, letterCount, letterCount, List.countP_singleton, other]
  rfl

theorem closingPads_letter (letter : isLetter c = true) : closingPads (front ++ [c]) = 0 := by
  rw [closingPads, List.reverse_append, List.reverse_singleton, List.singleton_append,
    List.takeWhile_cons_of_neg (by simp [letter])]
  rfl

theorem closingPads_other (other : isLetter c = false) :
    closingPads (front ++ [c]) = closingPads front + if c = '=' then 1 else 0 := by
  rw [closingPads, List.reverse_append, List.reverse_singleton, List.singleton_append,
    List.takeWhile_cons_of_pos (by simp [other]), List.count_cons]
  simp only [beq_iff_eq]
  rfl

/-- A group that was open is closed by the last pad that it lacks, and by nothing else. -/
theorem closed_snoc_iff (unclosed : ¬Closed front) :
    Closed (front ++ [c]) ↔
      c = '=' ∧ 2 ≤ letterCount front % 4 ∧ 4 ≤ letterCount front % 4 + closingPads front + 1 := by
  unfold Closed at unclosed ⊢
  -- a letter has no pads behind it, so with it the last group is complete by itself or open
  by_cases letter : isLetter c = true
  · rw [letterCount_letter letter, closingPads_letter letter]
    constructor
    · intro closed
      omega
    · rintro ⟨rfl, -⟩
      rw [isLetter_pad] at letter
      cases letter
  · have other : isLetter c = false := Bool.eq_false_iff.mpr letter
    rw [letterCount_other other, closingPads_other other]
    by_cases pad : c = '='
    · rw [if_pos pad, ← Nat.add_assoc]
      exact ⟨fun closed => ⟨pad, closed⟩, And.right⟩
    · rw [if_neg pad]
      exact ⟨fun closed => absurd closed unclosed, fun closed => absurd closed.1 pad⟩

end

theorem exists_closed_cons_iff {front : Text} (unclosed : ¬Closed front) (c : CodePoint)
    (text : Text) :
    (∃ read, read <+: c :: text ∧ Closed (front ++ read)) ↔
      ∃ read, read <+: text ∧ Closed (front ++ [c] ++ read) := by
  constructor
  · rintro ⟨read, inside, closed⟩
    rcases List.prefix_cons_iff.mp inside with rfl | ⟨rest, rfl, onward⟩
    · rw [List.append_nil] at closed
      exact absurd closed unclosed
    · rw [List.append_cons] at closed
      exact ⟨rest, onward, closed⟩
  · rintro ⟨read, inside, closed⟩
    rw [← List.append_cons] at closed
    exact ⟨c :: read, List.cons_prefix_cons.mpr ⟨rfl, inside⟩, closed⟩

theorem scan_padded_iff {front : Text} (unclosed : ¬Closed front) (text : Text) :
    (scan (letterCount front) (closingPads front) text).2 = true ↔
      ∃ read, read <+: text ∧ Closed (front ++ read) := by
  induction text generalizing front with
  | nil =>
    constructor
    · intro padded
      cases padded
    · rintro ⟨read, inside, closed⟩
      rw [List.prefix_nil.mp inside, List.append_nil] at closed
      exact absurd closed unclosed
  | cons c text ih =>
    rw [exists_closed_cons_iff unclosed]
    by_cases closes : Closed (front ++ [c])
    · obtain ⟨rfl, full⟩ := (closed_snoc_iff unclosed).mp closes
      rw [scan, if_pos rfl, if_pos full]
      have here : Closed (front ++ [CodePoint.ofChar '='] ++ []) := by
        rwa [List.append_nil]
      exact ⟨fun _ => ⟨[], List.nil_prefix, here⟩, fun _ => rfl⟩
    · rw [← ih closes, scan]
      by_cases pad : c = '='
      · have short := mt (fun full => (closed_snoc_iff unclosed).mpr ⟨pad, full⟩) closes
        subst pad
        rw [if_pos rfl, if_neg short, letterCount_other isLetter_pad,
          closingPads_other isLetter_pad, if_pos rfl]
      · rw [if_neg pad]
        cases known : value? c with
        | none =>
          have other : isLetter c = false := by
            rw [isLetter, known]
            rfl
          rw [letterCount_other other, closingPads_other other, if_neg pad]
          rfl
        | some value =>
          have letter : isLetter c = true := by
            rw [isLetter, known]
            rfl
          rw [letterCount_letter letter, closingPads_letter letter]

theorem length_scan {letters pads : Nat} {text : Text}
    (unpadded : (scan letters pads text).2 = false) :
    (scan letters pads text).1.length = letterCount text := by
  induction text generalizing letters pads with
  | nil => rfl
  | cons c text ih =>
    rw [scan] at unpadded ⊢
    have counted : letterCount (c :: text) = letterCount text + if isLetter c then 1 else 0 :=
      List.countP_cons
    by_cases pad : c = '='
    · rw [if_pos pad] at unpadded ⊢
      rw [counted, pad, isLetter_pad]
      by_cases full : 2 ≤ letters % 4 ∧ 4 ≤ letters % 4 + pads + 1
      · rw [if_pos full] at unpadded
        cases unpadded
      · rw [if_neg full] at unpadded ⊢
        exact ih unpadded
    · rw [if_neg pad] at unpadded ⊢
      rw [counted, isLetter]
      cases known : value? c with
      | none =>
        rw [known] at unpadded
        exact ih unpadded
      | some value =>
        rw [known] at unpadded
        exact congrArg (· + 1) (ih unpadded)

theorem any_foreign_iff {text : Text} :
    (text.any fun c => 128 ≤ c.toNat) = true ↔ ¬IsAscii text := by
  unfold IsAscii
  rw [List.any_eq_true]
  constructor
  · rintro ⟨c, member, large⟩ ascii
    have small := ascii c member
    have large := of_decide_eq_true large
    omega
  · intro foreign
    apply Decidable.byContradiction
    intro none
    refine foreign fun c member => Decidable.byContradiction fun large => none ⟨c, member, ?_⟩
    exact decide_eq_true (Nat.not_lt.mp large)

theorem padded_iff (text : Text) :
    (scan 0 0 text).2 = true ↔ ∃ front, front <+: text ∧ Closed front :=
  have unclosed : ¬Closed [] := by decide
  scan_padded_iff unclosed text

theorem decode_of_ascii {text : Text} (ascii : IsAscii text) :
    decode text =
      if (scan 0 0 text).2 ∨ (scan 0 0 text).1.length % 4 = 0 then .ok (bytesOf (scan 0 0 text).1)
      else if (scan 0 0 text).1.length % 4 = 1 then
        .error (.lonelyLetter (scan 0 0 text).1.length)
      else .error .unfinishedGroup := by
  have all : ¬(text.any fun c => decide (128 ≤ c.toNat)) = true :=
    fun foreign => any_foreign_iff.mp foreign ascii
  rw [decode, if_neg all]

theorem decode_cases (text : Text) :
    (Accepted text ∧ ∃ bytes, decode text = .ok bytes) ∨
      ∃ fault, Refused text fault ∧ decode text = .error fault := by
  -- the cases stand in the order in which the faults are looked for
  by_cases ascii : IsAscii text
  · rw [decode_of_ascii ascii]
    by_cases closed : ∃ front, front <+: text ∧ Closed front
    · have padded := (padded_iff text).mpr closed
      rw [if_pos (.inl padded)]
      exact .inl ⟨⟨ascii, .inr closed⟩, _, rfl⟩
    · have unpadded := Bool.eq_false_iff.mpr (mt (padded_iff text).mp closed)
      have unclosed : ∀ front, front <+: text → ¬Closed front :=
        fun front inside full => closed ⟨front, inside, full⟩
      rw [unpadded, length_scan unpadded]
      by_cases complete : letterCount text % 4 = 0
      · rw [if_pos (.inr complete)]
        exact .inl ⟨⟨ascii, .inl complete⟩, _, rfl⟩
      · rw [if_neg (by simpa using complete)]
        by_cases lonely : letterCount text % 4 = 1
        · rw [if_pos lonely]
          exact .inr ⟨_, .lonelyLetter ascii unclosed lonely, rfl⟩
        · rw [if_neg lonely]
          exact .inr ⟨_, .unfinishedGroup ascii unclosed (by omega), rfl⟩
  · rw [decode, if_pos (any_foreign_iff.mpr ascii)]
    exact .inr ⟨_, .notAscii ascii, rfl⟩

theorem Refused.unique {text : Text} {fault other : Fault} (refused : Refused text fault)
    (refused' : Refused text other) : fault = other := by
  cases refused <;> cases refused' <;> first | rfl | contradiction | omega

theorem Refused.not_accepted {text : Text} {fault : Fault} (refused : Refused text fault) :
    ¬Accepted text := by
  rintro ⟨ascii, complete | ⟨front, inside, closed⟩⟩
  · cases refused <;> first | contradiction | omega
  · cases refused with
    | notAscii foreign => exact foreign ascii
    | lonelyLetter _ unclosed | unfinishedGroup _ unclosed => exact unclosed front inside closed

theorem decode_isOk_iff {text : Text} : (∃ bytes, decode text = .ok bytes) ↔ Accepted text := by
  rcases decode_cases text with ⟨accepted, read⟩ | ⟨fault, refused, failed⟩
  · exact ⟨fun _ => accepted, fun _ => read⟩
  · constructor
    · rintro ⟨bytes, read⟩
      rw [failed] at read
      cases read
    · intro accepted
      exact absurd accepted refused.not_accepted

theorem decode_eq_error_iff {text : Text} {fault : Fault} :
    decode text = .error fault ↔ Refused text fault := by
  rcases decode_cases text with ⟨accepted, bytes, read⟩ | ⟨other, refused, failed⟩
  · constructor
    · intro failed
      rw [read] at failed
      cases failed
    · intro refused
      exact absurd accepted refused.not_accepted
  · rw [failed]
    constructor
    · intro same
      cases same
      exact refused
    · intro refused'
      rw [refused.unique refused']

/-- What stands between the pads of a group does not matter, and neither does what follows them. -/
example : Accepted "QUJD RA=!=x" :=
  ⟨by decide, .inr ⟨"QUJD RA=!=", by decide, by decide⟩⟩

end ThreadLab.Base64
