import Mathlib.Data.List.Forall2

namespace ThreadLab

variable {α β ε : Type}

theorem bind_eq_ok {first : Except ε α} {next : α → Except ε β} {out : β} :
    first >>= next = .ok out ↔ ∃ value, first = .ok value ∧ next value = .ok out := by
  constructor
  · intro read
    cases first with
    | error fault => cases read
    | ok value => exact ⟨value, rfl, read⟩
  · rintro ⟨value, rfl, read⟩
    exact read

theorem bind_eq_error {first : Except ε α} {next : α → Except ε β} {fault : ε} :
    first >>= next = .error fault ↔
      first = .error fault ∨ ∃ value, first = .ok value ∧ next value = .error fault := by
  cases first with
  | error other =>
    constructor
    · intro failed
      exact .inl (congrArg _ (Except.error.inj failed))
    · rintro (failed | ⟨value, read, -⟩)
      · rw [failed]
        rfl
      · cases read
  | ok value =>
    constructor
    · intro failed
      exact .inr ⟨value, rfl, failed⟩
    · rintro (failed | ⟨other, read, failed⟩)
      · cases failed
      · cases read
        exact failed

theorem guard_eq_ok {holds : Prop} [Decidable holds] {fault : ε} {rest : Except ε β} {out : β} :
    (if holds then .error fault else rest) = .ok out ↔ ¬holds ∧ rest = .ok out := by
  by_cases held : holds
  · rw [if_pos held]
    exact ⟨nofun, fun both => absurd held both.1⟩
  · rw [if_neg held]
    exact ⟨fun read => ⟨held, read⟩, fun both => both.2⟩

theorem mapError_eq_ok_iff {ε' : Type} {result : Except ε α} {wrap : ε → ε'} {value : α} :
    result.mapError wrap = .ok value ↔ result = .ok value := by
  cases result <;> simp [Except.mapError]

theorem mapError_eq_error_iff {ε' : Type} {result : Except ε α} {wrap : ε → ε'} {fault : ε'} :
    result.mapError wrap = .error fault ↔ ∃ cause, result = .error cause ∧ wrap cause = fault := by
  cases result <;> simp [Except.mapError]

theorem map_eq_error_iff {result : Except ε α} {next : α → β} {fault : ε} :
    result.map next = .error fault ↔ result = .error fault := by
  cases result <;> simp [Except.map]

theorem mapM_map_pure {m : Type → Type} [Monad m] [LawfulMonad m] {write : α → β}
    {read : β → m α} {row : List α} (back : ∀ entry ∈ row, read (write entry) = pure entry) :
    (row.map write).mapM read = pure row := by
  induction row with
  | nil => rfl
  | cons entry row ih =>
    have first := back entry (by simp)
    have rest := ih fun other member => back other (List.mem_cons_of_mem _ member)
    rw [List.map_cons, List.mapM_cons, first, rest, pure_bind, pure_bind]

theorem mapM_eq_some_iff {read : α → Option β} {row : List α} {out : List β} :
    row.mapM read = some out ↔
      List.Forall₂ (fun entry value => read entry = some value) row out := by
  induction row generalizing out with
  | nil =>
    rw [List.forall₂_nil_left_iff]
    constructor
    · intro all
      cases all
      rfl
    · rintro rfl
      rfl
  | cons first row ih =>
    rw [List.forall₂_cons_left_iff, List.mapM_cons]
    constructor
    · intro all
      obtain ⟨value, found, remaining⟩ := Option.bind_eq_some_iff.mp all
      obtain ⟨values, others, same⟩ := Option.bind_eq_some_iff.mp remaining
      exact ⟨value, values, found, ih.mp others, (Option.some.inj same).symm⟩
    · rintro ⟨value, values, found, others, rfl⟩
      rw [found, ih.mpr others]
      rfl

theorem mapM_eq_ok_iff {read : α → Except ε β} {row : List α} {out : List β} :
    row.mapM read = .ok out ↔
      List.Forall₂ (fun entry value => read entry = .ok value) row out := by
  induction row generalizing out with
  | nil =>
    rw [List.forall₂_nil_left_iff]
    constructor
    · intro all
      cases all
      rfl
    · rintro rfl
      rfl
  | cons first row ih =>
    rw [List.forall₂_cons_left_iff, List.mapM_cons]
    constructor
    · intro all
      obtain ⟨value, found, remaining⟩ := bind_eq_ok.mp all
      obtain ⟨values, others, same⟩ := bind_eq_ok.mp remaining
      cases same
      exact ⟨value, values, found, ih.mp others, rfl⟩
    · rintro ⟨value, values, found, others, rfl⟩
      rw [found, ih.mpr others]
      rfl

theorem mapM_isOk_iff {read : α → Except ε β} {row : List α} :
    (∃ out, row.mapM read = .ok out) ↔ ∀ entry ∈ row, ∃ value, read entry = .ok value := by
  induction row with
  | nil => exact ⟨fun _ => nofun, fun _ => ⟨[], rfl⟩⟩
  | cons first row ih =>
    rw [List.forall_mem_cons, ← ih, List.mapM_cons]
    constructor
    · rintro ⟨out, all⟩
      obtain ⟨value, found, remaining⟩ := bind_eq_ok.mp all
      obtain ⟨values, others, -⟩ := bind_eq_ok.mp remaining
      exact ⟨⟨value, found⟩, values, others⟩
    · rintro ⟨⟨value, found⟩, values, others⟩
      rw [found, others]
      exact ⟨value :: values, rfl⟩

theorem mapM_eq_error_iff {read : α → Except ε β} {row : List α} {fault : ε} :
    row.mapM read = .error fault ↔
      ∃ before entry after, row = before ++ entry :: after ∧
        (∀ other ∈ before, ∃ value, read other = .ok value) ∧ read entry = .error fault := by
  induction row with
  | nil =>
    constructor
    · intro failed
      cases failed
    · rintro ⟨before, entry, after, same, -⟩
      cases before <;> cases same
  | cons first row ih =>
    rw [List.mapM_cons, bind_eq_error]
    constructor
    · rintro (failed | ⟨value, found, remaining⟩)
      · exact ⟨[], first, row, rfl, nofun, failed⟩
      · rcases bind_eq_error.mp remaining with failed | ⟨values, -, ended⟩
        · obtain ⟨before, entry, after, rfl, readable, failed⟩ := ih.mp failed
          exact ⟨first :: before, entry, after, rfl,
            List.forall_mem_cons.mpr ⟨⟨value, found⟩, readable⟩, failed⟩
        · cases ended
    · rintro ⟨before, entry, after, same, readable, failed⟩
      cases before with
      | nil =>
        cases same
        exact .inl failed
      | cons other before =>
        cases same
        obtain ⟨⟨value, found⟩, readable⟩ := List.forall_mem_cons.mp readable
        have rest := ih.mpr ⟨before, entry, after, rfl, readable, failed⟩
        exact .inr ⟨value, found, bind_eq_error.mpr (.inl rest)⟩

theorem exists_of_forall₂ {related : α → β → Prop} {row : List α} {out : List β}
    (all : List.Forall₂ related row out) {entry : α} (member : entry ∈ row) :
    ∃ value, related entry value := by
  induction all with
  | nil => cases member
  | cons first rest ih =>
    rcases List.mem_cons.mp member with rfl | member
    · exact ⟨_, first⟩
    · exact ih member

theorem exists_mem_of_mapM {read : α → Except ε β} {row : List α} {out : List β}
    (all : row.mapM read = .ok out) (holds : β → Prop) :
    (∃ value ∈ out, holds value) ↔
      ∃ entry ∈ row, ∃ value, read entry = .ok value ∧ holds value := by
  have each := mapM_eq_ok_iff.mp all
  clear all
  induction each with
  | nil => simp
  | cons found rest ih => simp [found, ih]

theorem filterMap_ite (keeps : α → Prop) [DecidablePred keeps] (write : α → β) (row : List α) :
    row.filterMap (fun entry => if keeps entry then some (write entry) else none) =
      (row.filter keeps).map write := by
  induction row with
  | nil => rfl
  | cons entry row ih =>
    rw [List.filterMap_cons, List.filter_cons, ih]
    by_cases kept : keeps entry <;> simp [kept]

end ThreadLab
