import ThreadLab.Text.Basic

namespace ThreadLab.Text

/-- The text before the first place where `pattern` begins, and the text from that place on. -/
def breakOn (pattern : Text) : Text → Option (Text × Text)
  | [] => if pattern = [] then some ([], []) else none
  | c :: text =>
    if pattern.isPrefixOf (c :: text) then some ([], c :: text)
    else (breakOn pattern text).map fun (before, found) => (c :: before, found)

def occursIn (pattern text : Text) : Bool :=
  (breakOn pattern text).isSome

theorem append_of_breakOn {pattern text before found : Text}
    (result : breakOn pattern text = some (before, found)) : before ++ found = text := by
  induction text generalizing before with
  | nil =>
    rw [breakOn] at result
    split at result
    · cases result; rfl
    · cases result
  | cons c text ih =>
    rw [breakOn] at result
    split at result
    · cases result; rfl
    · obtain ⟨⟨rest, place⟩, inner, same⟩ := Option.map_eq_some_iff.mp result
      cases same
      simp [ih inner]

theorem pattern_begins_of_breakOn {pattern text before found : Text}
    (result : breakOn pattern text = some (before, found)) : pattern <+: found := by
  induction text generalizing before with
  | nil =>
    rw [breakOn] at result
    split at result
    · rename_i empty
      cases result
      simp [empty]
    · cases result
  | cons c text ih =>
    rw [breakOn] at result
    split at result
    · rename_i begins
      cases result
      exact List.isPrefixOf_iff_prefix.mp begins
    · obtain ⟨⟨rest, place⟩, inner, same⟩ := Option.map_eq_some_iff.mp result
      cases same
      exact ih inner

end ThreadLab.Text
