import Mathlib.Data.List.TakeWhile
import ThreadLab.Ip.V6.Printer
import ThreadLab.Proofs.Ip.V6.Spelling

namespace ThreadLab.Ip.V6

theorem takeWhile_zero (groups : List Nat) :
    groups.takeWhile (· = 0) = List.replicate (zerosInFront groups) 0 := by
  rw [zerosInFront, List.eq_replicate_iff]
  refine ⟨rfl, fun group member => ?_⟩
  have zero := List.mem_takeWhile_imp member
  simpa using zero

/-- The longest run is a row of zeros in the groups. -/
theorem longestRun_splits (groups : List Nat) :
    ∃ before after, before.length = (longestRun groups).1 ∧
      groups = before ++ List.replicate (longestRun groups).2 0 ++ after := by
  induction groups with
  | nil => exact ⟨[], [], rfl, rfl⟩
  | cons group groups ih =>
    obtain ⟨before, after, start, same⟩ := ih
    by_cases short : (longestRun groups).2 ≤ zerosInFront (group :: groups)
    · refine ⟨[], (group :: groups).dropWhile (· = 0), ?_, ?_⟩
      · simp [longestRun, short]
      · have here : (longestRun (group :: groups)).2 = zerosInFront (group :: groups) := by
          simp [longestRun, short]
        rw [here, ← takeWhile_zero, List.nil_append, List.takeWhile_append_dropWhile]
    · refine ⟨group :: before, after, ?_, ?_⟩
      · simp [longestRun, short, start]
      · have there : (longestRun (group :: groups)).2 = (longestRun groups).2 := by
          simp [longestRun, short]
        rw [there]
        exact congrArg (group :: ·) same

theorem compress_of_long {groups before after : List Nat} {start size : Nat}
    (run : longestRun groups = (start, size)) (front : before.length = start)
    (same : groups = before ++ List.replicate size 0 ++ after) (long : 2 ≤ size) :
    compress groups = joinGroups before ++ "::" ++ joinGroups after := by
  have stop : (before ++ List.replicate size 0).length = start + size := by
    rw [List.length_append, List.length_replicate, front]
  have taken : groups.take start = before := by
    rw [same, List.append_assoc, ← front, List.take_left]
  have dropped : groups.drop (start + size) = after := by
    rw [same, ← stop, List.drop_left]
  rw [compress, run]
  dsimp only
  rw [if_pos long, taken, dropped]

theorem compress_of_short {groups : List Nat} {start size : Nat}
    (run : longestRun groups = (start, size)) (short : ¬ 2 ≤ size) :
    compress groups = joinGroups groups := by
  rw [compress, run]
  dsimp only
  rw [if_neg short]

theorem spells_numerals {groups : List Nat} (small : ∀ group ∈ groups, group < 65536) :
    List.Forall₂ SpellsGroup (groups.map (Text.numeral 16 4)) groups := by
  rw [List.forall₂_map_left_iff, List.forall₂_same]
  exact fun group member => spellsGroup_numeral (small group member)

theorem spells_compress {groups : List Nat} (eight : groups.length = 8)
    (small : ∀ group ∈ groups, group < 65536) : SpellsGroups (compress groups) groups := by
  obtain ⟨before, after, front, same⟩ := longestRun_splits groups
  rcases run : longestRun groups with ⟨start, size⟩
  rw [run] at front same
  by_cases long : 2 ≤ size
  · have total := congrArg List.length same
    rw [List.length_append, List.length_append, List.length_replicate] at total
    have filled : 8 - before.length - after.length = size := by omega
    have smallBefore : ∀ group ∈ before, group < 65536 := by
      intro group member
      apply small group
      rw [same, List.append_assoc]
      exact List.mem_append_left _ member
    have smallAfter : ∀ group ∈ after, group < 65536 := by
      intro group member
      apply small group
      rw [same]
      exact List.mem_append_right _ member
    have spelled := SpellsGroups.gapped (spells_numerals smallBefore)
      (.plain (spells_numerals smallAfter)) (by omega)
    rw [filled, ← same] at spelled
    rw [compress_of_long run front same long]
    exact spelled
  · rw [compress_of_short run long]
    exact .full (.plain (spells_numerals small)) eight

end ThreadLab.Ip.V6
