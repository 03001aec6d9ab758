import ThreadLab.Fault

namespace ThreadLab

variable {α : Type}

/-- What a search through a row comes to: the entries that it tests, each once and in order, what it
ends in, and the entries behind them. -/
inductive FirstMatch (accepts : α → Except Fault Bool) :
    List α → List α → Except Fault (Option α) → List α → Prop
  | found {before after : List α} {entry : α} (rejected : ∀ other ∈ before, accepts other = .ok false)
    (accepted : accepts entry = .ok true) :
    FirstMatch accepts (before ++ entry :: after) (before ++ [entry]) (.ok (some entry)) after
  | failed {before after : List α} {entry : α} {fault : Fault}
    (rejected : ∀ other ∈ before, accepts other = .ok false)
    (fails : accepts entry = .error fault) :
    FirstMatch accepts (before ++ entry :: after) (before ++ [entry]) (.error fault) after
  | absent {row : List α} (rejected : ∀ entry ∈ row, accepts entry = .ok false) :
    FirstMatch accepts row row (.ok none) []

namespace FirstMatch

variable {accepts : α → Except Fault Bool} {row tested left : List α}
  {result : Except Fault (Option α)}

theorem tested_append_left (search : FirstMatch accepts row tested result left) :
    tested ++ left = row := by
  cases search with
  | found rejected accepted => simp
  | failed rejected fails => simp
  | absent rejected => simp

theorem found_head {entry : α} (accepted : accepts entry = .ok true) (row : List α) :
    FirstMatch accepts (entry :: row) [entry] (.ok (some entry)) row := by
  have found : FirstMatch accepts ([] ++ entry :: row) ([] ++ [entry]) _ row :=
    .found (by simp) accepted
  exact found

theorem failed_head {entry : α} {fault : Fault} (fails : accepts entry = .error fault)
    (row : List α) : FirstMatch accepts (entry :: row) [entry] (.error fault) row := by
  have failed : FirstMatch accepts ([] ++ entry :: row) ([] ++ [entry]) _ row :=
    .failed (by simp) fails
  exact failed

theorem behind {first : List α} (rejected : ∀ entry ∈ first, accepts entry = .ok false)
    (search : FirstMatch accepts row tested result left) :
    FirstMatch accepts (first ++ row) (first ++ tested) result left := by
  have both : ∀ {others : List α}, (∀ entry ∈ others, accepts entry = .ok false) →
      ∀ entry ∈ first ++ others, accepts entry = .ok false := by
    intro others all entry member
    rcases List.mem_append.mp member with member | member
    · exact rejected entry member
    · exact all entry member
  cases search with
  | found before accepted =>
    rw [← List.append_assoc, ← List.append_assoc]
    exact .found (both before) accepted
  | failed before fails =>
    rw [← List.append_assoc, ← List.append_assoc]
    exact .failed (both before) fails
  | absent all => exact .absent (both all)

theorem cons {entry : α} (rejected : accepts entry = .ok false)
    (search : FirstMatch accepts row tested result left) :
    FirstMatch accepts (entry :: row) (entry :: tested) result left := by
  have single : ∀ other ∈ [entry], accepts other = .ok false := by
    intro other member
    rw [List.mem_singleton.mp member]
    exact rejected
  exact search.behind single

theorem rejected_of_absent (search : FirstMatch accepts row tested (.ok none) left) :
    left = [] ∧ ∀ entry ∈ row, accepts entry = .ok false := by
  cases search with
  | absent rejected => exact ⟨rfl, rejected⟩

theorem cons_cases {entry : α} (search : FirstMatch accepts (entry :: row) tested result left) :
    (accepts entry = .ok true ∧ result = .ok (some entry)) ∨
      (∃ fault, accepts entry = .error fault ∧ result = .error fault) ∨
      (accepts entry = .ok false ∧ ∃ others, FirstMatch accepts row others result left) := by
  generalize same : entry :: row = whole at search
  cases search with
  | @found before after other rejected accepted =>
    cases before with
    | nil =>
      cases same
      exact .inl ⟨accepted, rfl⟩
    | cons first before =>
      cases same
      obtain ⟨first, rest⟩ := List.forall_mem_cons.mp rejected
      exact .inr (.inr ⟨first, _, .found rest accepted⟩)
  | @failed before after other fault rejected fails =>
    cases before with
    | nil =>
      cases same
      exact .inr (.inl ⟨fault, fails, rfl⟩)
    | cons first before =>
      cases same
      obtain ⟨first, rest⟩ := List.forall_mem_cons.mp rejected
      exact .inr (.inr ⟨first, _, .failed rest fails⟩)
  | absent rejected =>
    subst same
    obtain ⟨first, rest⟩ := List.forall_mem_cons.mp rejected
    exact .inr (.inr ⟨first, _, .absent rest⟩)

theorem result_unique {others rest : List α} {other : Except Fault (Option α)}
    (search : FirstMatch accepts row tested result left)
    (search' : FirstMatch accepts row others other rest) : result = other := by
  induction row generalizing tested left others rest with
  | nil =>
    have nothing : ∀ {tested left : List α} {result : Except Fault (Option α)},
        FirstMatch accepts [] tested result left → result = .ok none := by
      intro tested left result search
      generalize empty : ([] : List α) = whole at search
      cases search with
      | found | failed => simp at empty
      | absent => rfl
    rw [nothing search, nothing search']
  | cons entry row ih =>
    have first := search.cons_cases
    have second := search'.cons_cases
    rcases answer : accepts entry with fault | _ | _
    · simp only [answer, reduceCtorEq, false_and, Except.error.injEq, exists_eq_left', or_false,
        false_or] at first second
      rw [first, second]
    · simp only [answer, reduceCtorEq, Except.ok.injEq, Bool.false_eq_true, false_and, exists_false,
        true_and, false_or] at first second
      obtain ⟨_, behind⟩ := first
      obtain ⟨_, behind'⟩ := second
      exact ih behind behind'
    · simp only [answer, reduceCtorEq, Except.ok.injEq, Bool.true_eq_false, false_and, exists_false,
        true_and, or_false] at first second
      rw [first, second]

end FirstMatch

end ThreadLab
