import ThreadLab.Proofs.Ip.V6.Compress

namespace ThreadLab.Ip.V6

theorem groups_lt (address : V6) : ∀ group ∈ address.groups, group < 65536 :=
  fun _ => Positional.lt_of_mem_digits (by decide)

theorem ofGroups_groups (address : V6) : ofGroups address.groups = address.withoutScope := by
  have fits : address.value < Nat.pow 65536 8 := address.value_lt
  have same : address.value % (1 <<< 128) = address.value := Nat.mod_eq_of_lt address.value_lt
  rw [ofGroups, groups, Positional.ofDigits_digits fits]
  simpa [ofNumber, withoutScope] using same

theorem spells_groups (address : V6) : SpellsGroups (compress address.groups) address.groups :=
  spells_compress (Positional.length_digits 65536 8 address.value) (groups_lt address)

theorem spells_text (address : V6) : Spells address.text address := by
  have spelled := spells_groups address
  obtain ⟨value, scope, small⟩ := address
  rw [text]
  cases scope with
  | none =>
    have plain := Spells.plain spelled
    rw [ofGroups_groups] at plain
    rwa [← List.append_nil (compress _)] at plain
  | some scope =>
    have onLink := Spells.onLink spelled scope
    rwa [ofGroups_groups] at onLink

theorem parse_text (address : V6) : parse address.text = .ok address :=
  parse_eq_ok_iff.mpr (spells_text address)

theorem spells_text_of_scopeless {address : V6} (scopeless : address.scope = none) :
    SpellsGroups address.text address.groups := by
  have bare : address.text = compress address.groups := by
    rw [text, scopeless]
    exact List.append_nil _
  rw [bare]
  exact spells_groups address

theorem colon_mem_of_spells {whole : Text} {groups : List Nat}
    (spelled : SpellsGroups whole groups) : (':' : CodePoint) ∈ whole := by
  rw [← List.count_pos_iff]
  exact Nat.lt_of_lt_of_le (by decide) spelled.two_le_count_colon

theorem colon_mem_of_parse {text : Text} {address : V6} (read : parse text = .ok address) :
    (':' : CodePoint) ∈ text := by
  cases parse_eq_ok_iff.mp read with
  | plain spelled => exact colon_mem_of_spells spelled
  | onLink spelled scope => exact List.mem_append_left _ (colon_mem_of_spells spelled)

end ThreadLab.Ip.V6
