import ThreadLab.Text.Blank

namespace ThreadLab.Text

theorem splitAt_of_not_mem {mark : CodePoint} {text : Text} (clean : mark ∉ text) :
    splitAt mark text = [text] := by
  apply split_eq_singleton
  intro c member
  rw [beq_eq_false_iff_ne]
  rintro rfl
  exact clean member

theorem splitAt_append_cons (mark : CodePoint) (left right : Text) :
    splitAt mark (left ++ mark :: right) = splitAt mark left ++ splitAt mark right :=
  @split_append_cons (· == mark) mark (beq_self_eq_true mark) left right

theorem join_cons (mark : CodePoint) (piece : Text) {pieces : List Text} (some : pieces ≠ []) :
    join mark (piece :: pieces) = piece ++ mark :: join mark pieces := by
  obtain ⟨next, others, rfl⟩ := List.exists_cons_of_ne_nil some
  rfl

theorem join_append (mark : CodePoint) {left right : List Text} (before : left ≠ [])
    (after : right ≠ []) :
    join mark (left ++ right) = join mark left ++ mark :: join mark right := by
  induction left with
  | nil => exact absurd rfl before
  | cons piece pieces ih =>
    by_cases more : pieces = []
    · subst more
      exact join_cons mark piece after
    · have some : pieces ++ right ≠ [] := List.append_ne_nil_of_right_ne_nil pieces after
      rw [List.cons_append, join_cons mark piece some, ih more, join_cons mark piece more,
        List.append_assoc, List.cons_append]

theorem split_join {stop : CodePoint → Bool} {mark : CodePoint} (stops : stop mark = true)
    {pieces : List Text} (some : pieces ≠ [])
    (clean : ∀ piece ∈ pieces, ∀ c ∈ piece, stop c = false) :
    split stop (join mark pieces) = pieces := by
  induction pieces with
  | nil => exact absurd rfl some
  | cons piece pieces ih =>
    have first := split_eq_singleton (clean piece (by simp))
    cases pieces with
    | nil => exact first
    | cons next pieces =>
      have rest := ih (by simp) fun other member => clean other (List.mem_cons_of_mem _ member)
      rw [join_cons mark piece (by simp), split_append_cons stops, first, rest,
        List.singleton_append]

theorem splitAt_join {mark : CodePoint} {pieces : List Text} (some : pieces ≠ [])
    (clean : ∀ piece ∈ pieces, mark ∉ piece) : splitAt mark (join mark pieces) = pieces := by
  apply @split_join (· == mark) mark (beq_self_eq_true mark) pieces some
  intro piece member c inside
  rw [beq_eq_false_iff_ne]
  rintro rfl
  exact clean piece member inside

theorem words_join {mark : CodePoint} (blank : isBlank mark = true) {pieces : List Text}
    (clean : ∀ piece ∈ pieces, ∀ c ∈ piece, isBlank c = false) :
    words (join mark pieces) = pieces.filter (· ≠ []) := by
  by_cases none : pieces = []
  · subst none
    rfl
  · rw [words, split_join blank none clean]

theorem mem_join {mark c : CodePoint} {pieces : List Text} (member : c ∈ join mark pieces) :
    c = mark ∨ ∃ piece ∈ pieces, c ∈ piece := by
  induction pieces with
  | nil => simp [join] at member
  | cons piece pieces ih =>
    cases pieces with
    | nil => exact .inr ⟨piece, by simp, member⟩
    | cons next pieces =>
      rw [join_cons mark piece (by simp), List.mem_append, List.mem_cons] at member
      rcases member with here | same | there
      · exact .inr ⟨piece, by simp, here⟩
      · exact .inl same
      · rcases ih there with same | ⟨other, inside, found⟩
        · exact .inl same
        · exact .inr ⟨other, List.mem_cons_of_mem _ inside, found⟩

theorem length_le_count_join (mark : CodePoint) (pieces : List Text) :
    pieces.length ≤ (join mark pieces).count mark + 1 := by
  induction pieces with
  | nil => exact Nat.zero_le _
  | cons piece pieces ih =>
    by_cases last : pieces = []
    · subst last
      simp
    · rw [join_cons mark piece last, List.count_append, List.count_cons_self, List.length_cons]
      omega

theorem join_modifyHead (mark c : CodePoint) {pieces : List Text} (some : pieces ≠ []) :
    join mark (pieces.modifyHead (c :: ·)) = c :: join mark pieces := by
  match pieces with
  | [] => exact absurd rfl some
  | [_] => rfl
  | _ :: _ :: _ => rfl

theorem join_splitAt (mark : CodePoint) (text : Text) : join mark (splitAt mark text) = text := by
  induction text with
  | nil => rfl
  | cons c text ih =>
    rw [splitAt] at ih
    rw [splitAt, split]
    split
    · rename_i stops
      cases pieces : split (· == mark) text with
      | nil => exact absurd pieces (split_ne_nil _ text)
      | cons piece pieces =>
        rw [pieces] at ih
        rw [join_cons mark [] (by simp), ih, eq_of_beq stops]
        rfl
    · rw [join_modifyHead mark c (split_ne_nil _ text), ih]

end ThreadLab.Text
