import ThreadLab.Proofs.Text.Join
import ThreadLab.Text.Search

namespace ThreadLab.Text

variable {pattern : Text}

theorem occursIn_cons_iff (c : CodePoint) (text : Text) :
    occursIn pattern (c :: text) = true ↔ pattern <+: c :: text ∨ occursIn pattern text = true := by
  unfold occursIn
  rw [breakOn]
  split
  · rename_i begins
    have here := List.isPrefixOf_iff_prefix.mp begins
    exact ⟨fun _ => .inl here, fun _ => rfl⟩
  · rename_i elsewhere
    rw [Option.isSome_map]
    constructor
    · exact .inr
    · rintro (begins | later)
      · exact absurd (List.isPrefixOf_iff_prefix.mpr begins) elsewhere
      · exact later

theorem occursIn_iff {text : Text} : occursIn pattern text = true ↔ pattern <:+: text := by
  induction text with
  | nil =>
    rw [List.infix_nil]
    unfold occursIn
    rw [breakOn]
    split
    · rename_i empty
      exact ⟨fun _ => empty, fun _ => rfl⟩
    · rename_i full
      exact iff_of_false Bool.false_ne_true full
  | cons c text ih => rw [occursIn_cons_iff, ih, List.infix_cons_iff]

/-- Whether the pattern begins at a place of the text, counted from its start. -/
def BeginsAt (pattern text : Text) (place : Nat) : Prop :=
  pattern <+: text.drop place

def FirstAt (pattern text : Text) (place : Nat) : Prop :=
  BeginsAt pattern text place ∧ ∀ earlier < place, ¬BeginsAt pattern text earlier

theorem beginsAt_add {before found : Text} {place : Nat} :
    BeginsAt pattern (before ++ found) (before.length + place) ↔ BeginsAt pattern found place := by
  rw [BeginsAt, BeginsAt, List.drop_length_add_append]

theorem beginsAt_length {before found : Text} :
    BeginsAt pattern (before ++ found) before.length ↔ pattern <+: found :=
  @beginsAt_add pattern before found 0

theorem exists_beginsAt_iff {text : Text} :
    (∃ place, BeginsAt pattern text place) ↔ pattern <:+: text := by
  constructor
  · rintro ⟨place, begins⟩
    exact begins.isInfix.trans (List.drop_suffix place text).isInfix
  · rintro ⟨before, after, rfl⟩
    refine ⟨before.length, ?_⟩
    rw [List.append_assoc, beginsAt_length]
    exact List.prefix_append pattern after

theorem beginsAt_append_iff {text : Text} {place : Nat}
    (ends : place + pattern.length ≤ text.length) (more : Text) :
    BeginsAt pattern (text ++ more) place ↔ BeginsAt pattern text place := by
  have inside : place ≤ text.length := by omega
  have room : pattern.length ≤ (text.drop place).length := by
    rw [List.length_drop]
    omega
  rw [BeginsAt, BeginsAt, List.drop_append_of_le_length inside]
  constructor
  · intro begins
    exact List.prefix_of_prefix_length_le begins (List.prefix_append _ _) room
  · intro begins
    exact begins.trans (List.prefix_append _ _)

theorem not_beginsAt_of_foreign {c : CodePoint} {front : Text} (foreign : c ∉ front) {place : Nat}
    (inside : place < front.length) (rest back : Text) :
    ¬BeginsAt (c :: rest) (front ++ back) place := by
  intro begins
  rw [BeginsAt, List.drop_append_of_le_length (Nat.le_of_lt inside),
    List.drop_eq_getElem_cons inside, List.cons_append] at begins
  have same := (List.cons_prefix_cons.mp begins).1
  exact foreign (same ▸ List.getElem_mem inside)

theorem breakOn_cons_of_begins {c : CodePoint} {text : Text} (begins : pattern <+: c :: text) :
    breakOn pattern (c :: text) = some ([], c :: text) := by
  rw [breakOn, if_pos (List.isPrefixOf_iff_prefix.mpr begins)]

theorem breakOn_cons_of_not_begins {c : CodePoint} {text : Text}
    (elsewhere : ¬pattern <+: c :: text) :
    breakOn pattern (c :: text) =
      (breakOn pattern text).map fun (before, found) => (c :: before, found) := by
  rw [breakOn, if_neg (mt List.isPrefixOf_iff_prefix.mp elsewhere)]

theorem not_beginsAt_of_breakOn {text before found : Text}
    (result : breakOn pattern text = some (before, found)) {place : Nat}
    (earlier : place < before.length) : ¬BeginsAt pattern text place := by
  induction text generalizing before place with
  | nil =>
    rw [breakOn] at result
    split at result
    · cases result
      cases earlier
    · cases result
  | cons c text ih =>
    by_cases begins : pattern <+: c :: text
    · rw [breakOn_cons_of_begins begins] at result
      cases result
      cases earlier
    · rw [breakOn_cons_of_not_begins begins] at result
      obtain ⟨⟨rest, _⟩, inner, same⟩ := Option.map_eq_some_iff.mp result
      cases same
      cases place with
      | zero => exact begins
      | succ place => exact ih inner (Nat.lt_of_succ_lt_succ earlier)

theorem breakOn_append {before found : Text} (begins : pattern <+: found)
    (first : ∀ place < before.length, ¬BeginsAt pattern (before ++ found) place) :
    breakOn pattern (before ++ found) = some (before, found) := by
  induction before with
  | nil =>
    cases found with
    | nil => rw [List.prefix_nil.mp begins]; rfl
    | cons c found => exact breakOn_cons_of_begins begins
  | cons c before ih =>
    have elsewhere : ¬pattern <+: c :: (before ++ found) := first 0 (Nat.succ_pos _)
    have rest := ih fun place earlier => first (place + 1) (Nat.succ_lt_succ earlier)
    rw [List.cons_append, breakOn_cons_of_not_begins elsewhere, rest]
    rfl

/-- The text is broken at the first place where the pattern begins. -/
theorem breakOn_eq_some_iff {text before found : Text} :
    breakOn pattern text = some (before, found) ↔
      text = before ++ found ∧ FirstAt pattern text before.length := by
  constructor
  · intro result
    have whole := append_of_breakOn result
    refine ⟨whole.symm, ?_, fun _ => not_beginsAt_of_breakOn result⟩
    rw [← whole, beginsAt_length]
    exact pattern_begins_of_breakOn result
  · rintro ⟨rfl, begins, first⟩
    exact breakOn_append (beginsAt_length.mp begins) first

theorem FirstAt.exists_append {text : Text} {place : Nat} (first : FirstAt pattern text place) :
    ∃ before found, text = before ++ found ∧ before.length = place := by
  refine ⟨text.take place, text.drop place, (List.take_append_drop place text).symm, ?_⟩
  rw [List.length_take, Nat.min_eq_left]
  apply Nat.le_of_not_lt
  intro beyond
  -- Behind the end begins only what begins at the end as well.
  have empty : pattern = [] := by
    have begins := first.1
    rwa [BeginsAt, List.drop_eq_nil_of_le (Nat.le_of_lt beyond), List.prefix_nil] at begins
  apply first.2 text.length beyond
  rw [BeginsAt, empty]
  exact List.nil_prefix

theorem breakOn_eq_none_iff {text : Text} : breakOn pattern text = none ↔ ¬pattern <:+: text := by
  rw [← occursIn_iff, occursIn, Bool.not_eq_true, Option.isSome_eq_false_iff,
    Option.isNone_iff_eq_none]

theorem not_infix_of_not_mem {text : Text} (c : CodePoint) (inside : c ∈ pattern)
    (foreign : c ∉ text) : ¬pattern <:+: text :=
  fun stands => foreign (stands.subset inside)

theorem prefix_cut {mark : CodePoint} (clean : mark ∉ pattern) {left right : Text}
    (begins : pattern <+: left ++ mark :: right) : pattern <+: left := by
  induction left generalizing pattern with
  | nil =>
    cases pattern with
    | nil => exact List.nil_prefix
    | cons c pattern =>
      have same := (List.cons_prefix_cons.mp begins).1
      exact absurd (List.mem_cons.mpr (.inl same.symm)) clean
  | cons d left ih =>
    cases pattern with
    | nil => exact List.nil_prefix
    | cons c pattern =>
      obtain ⟨same, rest⟩ := List.cons_prefix_cons.mp begins
      have cleanRest : mark ∉ pattern := fun member => clean (List.mem_cons_of_mem c member)
      exact List.cons_prefix_cons.mpr ⟨same, ih cleanRest rest⟩

theorem infix_cut_iff {mark : CodePoint} (clean : mark ∉ pattern) (left right : Text) :
    pattern <:+: left ++ mark :: right ↔ pattern <:+: left ∨ pattern <:+: right := by
  constructor
  · -- What begins left of the mark ends left of it, so the induction is on the text there.
    intro stands
    induction left with
    | nil =>
      rcases List.infix_cons_iff.mp stands with begins | later
      · exact .inl (@prefix_cut pattern mark clean [] right begins).isInfix
      · exact .inr later
    | cons c left ih =>
      rcases List.infix_cons_iff.mp stands with begins | later
      · exact .inl (prefix_cut clean begins).isInfix
      · rcases ih later with before | after
        · exact .inl (List.infix_cons before)
        · exact .inr after
  · rintro (before | after)
    · exact before.trans (List.prefix_append _ _).isInfix
    · exact after.trans (List.suffix_append_of_suffix (List.suffix_cons _ _)).isInfix

theorem infix_join_iff {mark : CodePoint} (clean : mark ∉ pattern) {pieces : List Text}
    (some : pieces ≠ []) :
    pattern <:+: join mark pieces ↔ ∃ piece ∈ pieces, pattern <:+: piece := by
  induction pieces with
  | nil => exact absurd rfl some
  | cons piece pieces ih =>
    by_cases last : pieces = []
    · subst last
      simp [join]
    · rw [join_cons mark piece last, infix_cut_iff clean, ih last]
      simp

theorem any_occursIn_iff {mark : CodePoint} (clean : mark ∉ pattern) (text : Text) :
    (splitAt mark text).any (occursIn pattern) = true ↔ pattern <:+: text := by
  have joined := infix_join_iff clean (split_ne_nil (· == mark) text)
  rw [← splitAt, join_splitAt] at joined
  rw [joined, List.any_eq_true]
  simp only [occursIn_iff]

end ThreadLab.Text
