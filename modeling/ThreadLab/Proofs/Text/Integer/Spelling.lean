import Mathlib.Data.List.TakeWhile
import ThreadLab.Proofs.Rows
import ThreadLab.Proofs.Text.Integer
import ThreadLab.Proofs.Text.Join
import ThreadLab.Text.Integer

namespace ThreadLab.Text

def IsDigit (c : CodePoint) : Prop :=
  (digitValue? c).isSome = true

theorem mem_split {stop : CodePoint → Bool} {text piece : Text} (member : piece ∈ split stop text)
    {c : CodePoint} (inside : c ∈ piece) : c ∈ text ∧ stop c = false := by
  induction text generalizing piece with
  | nil =>
    rw [List.mem_singleton.mp member] at inside
    cases inside
  | cons d text ih =>
    rw [split] at member
    split at member
    · rcases List.mem_cons.mp member with rfl | later
      · cases inside
      · exact (ih later inside).imp_left (List.mem_cons_of_mem d)
    · rename_i goesOn
      cases pieces : split stop text with
      | nil => exact absurd pieces (split_ne_nil stop text)
      | cons first others =>
        rw [pieces] at member ih
        rcases List.mem_cons.mp member with rfl | later
        · rcases List.mem_cons.mp inside with rfl | further
          · exact ⟨List.mem_cons_self, Bool.eq_false_iff.mpr goesOn⟩
          · exact (ih List.mem_cons_self further).imp_left (List.mem_cons_of_mem d)
        · exact (ih (List.mem_cons_of_mem first later) inside).imp_left (List.mem_cons_of_mem d)

namespace Integer

def IsMargin (row : Text) : Prop :=
  ∀ c ∈ row, isMargin c = true

structure IsGrouped (groups : List Text) : Prop where
  some : groups ≠ []
  full : ∀ group ∈ groups, group ≠ []
  digits : ∀ group ∈ groups, ∀ c ∈ group, IsDigit c
  short : groups.flatten.length ≤ mostDigits

def valueOf (groups : List Text) : Nat :=
  Positional.ofDigits 10 (groups.flatten.filterMap digitValue?)

inductive Signed (number : Nat) : Text → Int → Prop
  | unsigned : Signed number [] number
  | plus : Signed number ['+'] number
  | minus : Signed number ['-'] (-number)

inductive Spells : Text → Int → Prop
  | intro {front sign back : Text} {groups : List Text} {value : Int} (before : IsMargin front)
    (signed : Signed (valueOf groups) sign value) (grouped : IsGrouped groups)
    (behind : IsMargin back) : Spells (front ++ (sign ++ (join '_' groups ++ back))) value

theorem isMargin_of_digit {c : CodePoint} (digit : IsDigit c) : isMargin c = false := by
  obtain ⟨value, known⟩ := Option.isSome_iff_exists.mp digit
  obtain ⟨first, found, -⟩ := Option.map_eq_some_iff.mp known
  have apart : ∀ first ∈ zeroDigits, 0x20 < first ∧ first + 10 ≤ 0x85 ∨
      0xa0 < first ∧ first + 10 ≤ 0x1680 ∨ 0x1680 < first ∧ first + 10 ≤ 0x2000 ∨
      0x3000 < first := by decide
  have place := apart first (List.mem_of_find?_eq_some found)
  have range := List.find?_some found
  simp only [Bool.and_eq_true, decide_eq_true_eq] at range
  rw [isMargin, isBlank, Bool.eq_false_iff]
  intro margin
  simp only [Bool.and_eq_true, Bool.or_eq_true, decide_eq_true_eq, beq_iff_eq] at margin
  omega

theorem isNumeralPart_iff {c : CodePoint} : isNumeralPart c = true ↔ IsDigit c ∨ c = '_' := by
  rw [isNumeralPart, Bool.or_eq_true, beq_iff_eq, IsDigit]

theorem isNumeralPart_of_margin {c : CodePoint} (margin : isMargin c = true) :
    isNumeralPart c = false := by
  rw [Bool.eq_false_iff]
  intro part
  rcases isNumeralPart_iff.mp part with digit | rfl
  · rw [isMargin_of_digit digit] at margin
    cases margin
  · exact absurd margin (by decide)

theorem ne_of_digit {c : CodePoint} (digit : IsDigit c) {d : CodePoint}
    (other : digitValue? d = none) : c ≠ d := by
  rintro rfl
  rw [IsDigit, other] at digit
  cases digit

theorem isNumeralPart_of_mem_join {groups : List Text} (grouped : IsGrouped groups) {c : CodePoint}
    (member : c ∈ join '_' groups) : isNumeralPart c = true := by
  rcases mem_join member with rfl | ⟨group, inside, found⟩
  · decide
  · exact isNumeralPart_iff.mpr (.inl (grouped.digits group inside c found))

theorem IsGrouped.splitAt_join {groups : List Text} (grouped : IsGrouped groups) :
    splitAt '_' (join '_' groups) = groups := by
  apply Text.splitAt_join grouped.some
  intro group member mark
  have digit := grouped.digits group member '_' mark
  exact ne_of_digit digit (by decide) rfl

theorem IsGrouped.exists_head {groups : List Text} (grouped : IsGrouped groups) :
    ∃ c rest, join '_' groups = c :: rest ∧ IsDigit c := by
  obtain ⟨first, others, rfl⟩ := List.exists_cons_of_ne_nil grouped.some
  obtain ⟨c, rest, rfl⟩ := List.exists_cons_of_ne_nil (grouped.full first List.mem_cons_self)
  have digit := grouped.digits _ List.mem_cons_self c List.mem_cons_self
  cases others with
  | nil => exact ⟨c, rest, rfl, digit⟩
  | cons next others => exact ⟨c, _, rfl, digit⟩

theorem grouped_of_readDigits {whole text : Text} {number : Nat}
    (read : readDigits whole text = .ok number) :
    ∃ groups back, text = join '_' groups ++ back ∧ IsGrouped groups ∧ IsMargin back ∧
      number = valueOf groups := by
  unfold readDigits at read
  obtain ⟨full, read⟩ := guard_eq_ok.mp read
  obtain ⟨short, read⟩ := guard_eq_ok.mp read
  split at read
  · rename_i behind
    have parts : text = join '_' (splitAt '_' (text.takeWhile isNumeralPart)) ++
        text.dropWhile isNumeralPart := by
      rw [join_splitAt, List.takeWhile_append_dropWhile]
    refine ⟨_, _, parts, ⟨split_ne_nil _ _, ?_, ?_, Nat.not_lt.mp short⟩,
      List.all_eq_true.mp behind, (Except.ok.inj read).symm⟩
    · rintro group member rfl
      exact full (List.any_eq_true.mpr ⟨[], member, by decide⟩)
    · intro group member c inside
      obtain ⟨taken, apart⟩ := mem_split member inside
      rcases isNumeralPart_iff.mp (List.mem_takeWhile_imp taken) with digit | rfl
      · exact digit
      · cases apart
  · cases read

theorem takeWhile_numeral_margin {back : Text} (behind : IsMargin back) :
    back.takeWhile isNumeralPart = [] ∧ back.dropWhile isNumeralPart = back := by
  cases back with
  | nil => exact ⟨rfl, rfl⟩
  | cons c back =>
    have other := isNumeralPart_of_margin (behind c List.mem_cons_self)
    rw [List.takeWhile_cons, List.dropWhile_cons, other]
    exact ⟨rfl, rfl⟩

theorem readDigits_join {groups : List Text} {back : Text} (grouped : IsGrouped groups)
    (behind : IsMargin back) (whole : Text) :
    readDigits whole (join '_' groups ++ back) = .ok (valueOf groups) := by
  have parts : ∀ c ∈ join '_' groups, isNumeralPart c = true :=
    fun c => isNumeralPart_of_mem_join grouped
  have full : ¬groups.any (· = []) = true := by
    rw [List.any_eq_true]
    rintro ⟨group, member, empty⟩
    exact grouped.full group member (of_decide_eq_true empty)
  have ends := takeWhile_numeral_margin behind
  have closed := List.all_eq_true.mpr behind
  rw [readDigits, List.takeWhile_append_of_pos parts, List.dropWhile_append_of_pos parts, ends.1,
    ends.2, List.append_nil, grouped.splitAt_join]
  simp only [full, Bool.false_eq_true, if_false, Nat.not_lt.mpr grouped.short, closed, if_true,
    valueOf]

theorem spells_of_signed {whole row front sign : Text} {change : Int → Int} {value : Int}
    (found : (do let number ← readDigits whole row; pure (number : Int) : Except Fault Int).map
      change = .ok value)
    (before : IsMargin front) (signed : ∀ number : Nat, Signed number sign (change number)) :
    Spells (front ++ (sign ++ row)) value := by
  cases read : readDigits whole row with
  | error fault =>
    rw [read] at found
    cases found
  | ok number =>
    rw [read] at found
    obtain ⟨groups, back, rfl, grouped, behind, rfl⟩ := grouped_of_readDigits read
    cases found
    exact .intro before (signed _) grouped behind

theorem dropWhile_margin {front row : Text} {c : CodePoint} (before : IsMargin front)
    (other : isMargin c = false) : (front ++ c :: row).dropWhile isMargin = c :: row := by
  rw [List.dropWhile_append_of_pos before, List.dropWhile_cons, other]
  rfl

theorem spells_of_read {text : Text} {value : Int} (found : read text = .ok value) :
    Spells text value := by
  have whole := List.takeWhile_append_dropWhile (p := isMargin) (l := text)
  have before : IsMargin (text.takeWhile isMargin) := fun _ => List.mem_takeWhile_imp
  unfold read at found
  split at found
  · cases found
  · rename_i first row begins
    rw [← whole, begins]
    split at found
    · rename_i minus
      rw [minus]
      exact spells_of_signed found before fun _ => .minus
    · split at found
      · rename_i plus
        rw [plus]
        exact spells_of_signed found before fun _ => .plus
      · exact spells_of_signed found before fun _ => .unsigned

theorem read_of_spells {text : Text} {value : Int} (spelled : Spells text value) :
    read text = .ok value := by
  obtain ⟨before, signed, grouped, behind⟩ := spelled
  rename_i front sign back groups
  have digits := readDigits_join grouped behind
  cases signed with
  | minus =>
    rw [read, List.singleton_append, dropWhile_margin before (by decide)]
    dsimp only
    rw [if_pos rfl, digits]
    rfl
  | plus =>
    rw [read, List.singleton_append, dropWhile_margin before (by decide)]
    dsimp only
    rw [if_neg (by decide), if_pos rfl, digits]
    rfl
  | unsigned =>
    obtain ⟨c, rest, same, digit⟩ := grouped.exists_head
    rw [read, List.nil_append]
    rw [same, List.cons_append] at digits ⊢
    rw [dropWhile_margin before (isMargin_of_digit digit)]
    dsimp only
    rw [if_neg (ne_of_digit digit (by decide)), if_neg (ne_of_digit digit (by decide)), digits]
    rfl

theorem read_eq_ok_iff {text : Text} {value : Int} : read text = .ok value ↔ Spells text value :=
  ⟨spells_of_read, read_of_spells⟩

theorem read_toString {number : Nat} (short : (toString number : Text).length ≤ mostDigits) :
    read (toString number) = .ok number := by
  have grouped : IsGrouped [toString number] := by
    constructor
    case some => exact List.cons_ne_nil _ _
    case full => exact List.forall_mem_singleton.mpr (toString_ne_nil number)
    case digits =>
      rw [List.forall_mem_singleton]
      intro c member
      rw [IsDigit, digitValue?_of_ascii (isAsciiDigit_of_mem member)]
      rfl
    case short => rwa [List.flatten_singleton]
  have value : valueOf [toString number] = number := by
    rw [valueOf, List.flatten_singleton, ofDigits_toString]
  have margin : IsMargin [] := fun _ => nofun
  have spelled := Spells.intro margin .unsigned grouped margin
  rw [value, join, List.append_nil] at spelled
  exact read_of_spells spelled

end Integer

end ThreadLab.Text
