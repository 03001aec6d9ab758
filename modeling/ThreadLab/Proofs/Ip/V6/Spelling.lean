import Mathlib.Data.List.Nodup
import ThreadLab.Ip.V6.Parser
import ThreadLab.Proofs.Ip.V4
import ThreadLab.Proofs.Text.Join
import ThreadLab.Proofs.Text.Numeral

namespace ThreadLab.Ip.V6

/-- One to four hexadecimal digits, and their number. -/
structure SpellsGroup (part : Text) (group : Nat) : Prop where
  some : part ≠ []
  short : part.length ≤ 4
  digits : ∃ row, part.mapM Text.hexValue? = .some row ∧ Positional.ofDigits 16 row = group

/-- Parts that spell one group each, but the last may be an IPv4 address, which spells two. -/
inductive SpellsTail : List Text → List Nat → Prop
  | plain {parts : List Text} {groups : List Nat} (each : List.Forall₂ SpellsGroup parts groups) :
    SpellsTail parts groups
  | dotted {parts : List Text} {groups : List Nat} (each : List.Forall₂ SpellsGroup parts groups)
    (address : V4) :
    SpellsTail (parts ++ [address.text])
      (groups ++ [address.value / 65536, address.value % 65536])

inductive SpellsGroups : Text → List Nat → Prop
  | full {parts : List Text} {groups : List Nat} (each : SpellsTail parts groups)
    (eight : groups.length = 8) : SpellsGroups (Text.join ':' parts) groups
  | gapped {front back : List Text} {high low : List Nat}
    (before : List.Forall₂ SpellsGroup front high) (after : SpellsTail back low)
    (short : high.length + low.length ≤ 7) :
    SpellsGroups (Text.join ':' front ++ "::" ++ Text.join ':' back)
      (high ++ List.replicate (8 - high.length - low.length) 0 ++ low)

inductive Spells : Text → V6 → Prop
  | plain {whole : Text} {groups : List Nat} (spelled : SpellsGroups whole groups) :
    Spells whole (ofGroups groups)
  | onLink {whole : Text} {groups : List Nat} (spelled : SpellsGroups whole groups)
    (scope : Scope) :
    Spells (whole ++ scopeMark :: scope.text) { ofGroups groups with scope := some scope }

theorem SpellsGroup.not_mem {part : Text} {group : Nat} (spelled : SpellsGroup part group)
    {c : CodePoint} (foreign : Text.hexValue? c = none) : c ∉ part := by
  intro member
  obtain ⟨row, digits, -⟩ := spelled.digits
  obtain ⟨digit, found⟩ := exists_of_forall₂ (mapM_eq_some_iff.mp digits) member
  rw [foreign] at found
  cases found

theorem not_mem_of_groups {parts : List Text} {groups : List Nat}
    (each : List.Forall₂ SpellsGroup parts groups) {c : CodePoint}
    (foreign : Text.hexValue? c = none) : ∀ part ∈ parts, c ∉ part := by
  intro part member
  obtain ⟨group, spelled⟩ := exists_of_forall₂ each member
  exact spelled.not_mem foreign

theorem SpellsGroup.unique {part : Text} {group other : Nat} (spelled : SpellsGroup part group)
    (spelled' : SpellsGroup part other) : group = other := by
  obtain ⟨row, digits, value⟩ := spelled.digits
  obtain ⟨row', digits', value'⟩ := spelled'.digits
  rw [digits] at digits'
  cases digits'
  exact value.symm.trans value'

theorem readGroup_eq_ok_iff {whole part : Text} (some : part ≠ []) {group : Nat} :
    readGroup whole part = .ok group ↔ SpellsGroup part group := by
  constructor
  · intro read
    rw [readGroup] at read
    cases digits : part.mapM Text.hexValue? with
    | none =>
      rw [digits] at read
      cases read
    | some row =>
      rw [digits] at read
      obtain ⟨short, read⟩ := guard_eq_ok.mp read
      exact ⟨some, Nat.not_lt.mp short, row, digits, Except.ok.inj read⟩
  · rintro ⟨-, short, row, digits, value⟩
    rw [readGroup, digits]
    dsimp only
    rw [if_neg (Nat.not_lt.mpr short), value]

theorem mapM_readGroup_iff {whole : Text} {parts : List Text} (some : [] ∉ parts)
    {groups : List Nat} :
    parts.mapM (readGroup whole) = .ok groups ↔ List.Forall₂ SpellsGroup parts groups := by
  rw [mapM_eq_ok_iff]
  induction parts generalizing groups with
  | nil => rw [List.forall₂_nil_left_iff, List.forall₂_nil_left_iff]
  | cons part parts ih =>
    rw [List.mem_cons, not_or] at some
    have first := @readGroup_eq_ok_iff whole part (Ne.symm some.1)
    rw [List.forall₂_cons_left_iff, List.forall₂_cons_left_iff]
    simp only [first, ih some.2]

theorem spellsGroup_numeral {group : Nat} (small : group < 65536) :
    SpellsGroup (Text.numeral 16 4 group) group where
  some := Text.numeral_ne_nil (by decide)
  short := Text.length_numeral_le 16 4 group
  digits := ⟨_, Text.mapM_numeral (by decide) (fun _ => Text.hexValue?_digitChar) 4 group,
    Positional.ofDigits_trim_digits small⟩

theorem nil_not_mem {parts : List Text} {groups : List Nat}
    (each : List.Forall₂ SpellsGroup parts groups) : [] ∉ parts := by
  intro member
  obtain ⟨group, spelled⟩ := exists_of_forall₂ each member
  exact spelled.some rfl

def side (parts : List Text) : List Text :=
  if parts = [] then [[]] else parts

theorem side_of_ne_nil {parts : List Text} (some : parts ≠ []) : side parts = parts :=
  if_neg some

theorem side_ne_nil (parts : List Text) : side parts ≠ [] := by
  rw [side]
  split
  · simp
  · assumption

theorem length_side (parts : List Text) : (side parts).length = max 1 parts.length := by
  rw [side]
  split
  · rename_i none
    subst none
    rfl
  · rename_i some
    have positive := List.length_pos_iff.mpr some
    omega

theorem splitAt_join_side {parts : List Text} (clean : ∀ part ∈ parts, (':' : CodePoint) ∉ part) :
    Text.splitAt ':' (Text.join ':' parts) = side parts := by
  by_cases none : parts = []
  · subst none
    rfl
  · rw [Text.splitAt_join none clean, side_of_ne_nil none]

theorem clean_side {parts : List Text} {mark : CodePoint} (clean : ∀ part ∈ parts, mark ∉ part) :
    ∀ piece ∈ side parts, mark ∉ piece := by
  by_cases none : parts = []
  · subst none
    intro piece member
    rw [List.mem_singleton.mp member]
    exact List.not_mem_nil
  · rwa [side_of_ne_nil none]

theorem join_side (parts : List Text) : Text.join ':' (side parts) = Text.join ':' parts := by
  by_cases none : parts = []
  · subst none
    rfl
  · rw [side_of_ne_nil none]

theorem eq_zero_of_side_empty {parts : List Text} (clean : [] ∉ parts) {place : Nat}
    (empty : (side parts)[place]? = some []) : place = 0 ∧ parts = [] := by
  by_cases none : parts = []
  · subst none
    obtain ⟨inside, -⟩ := List.getElem?_eq_some_iff.mp empty
    exact ⟨Nat.lt_one_iff.mp inside, rfl⟩
  · rw [side_of_ne_nil none] at empty
    exact absurd (List.mem_of_getElem? empty) clean

theorem mem_gaps {parts : List Text} {place : Nat} :
    place ∈ gaps parts ↔ 0 < place ∧ place + 1 < parts.length ∧ parts[place]? = some [] := by
  rw [gaps, List.mem_filter, List.mem_range]
  simp only [Bool.and_eq_true, decide_eq_true_eq, beq_iff_eq, and_assoc]
  constructor
  · rintro ⟨-, inner, notLast, empty⟩
    exact ⟨inner, notLast, empty⟩
  · rintro ⟨inner, notLast, empty⟩
    exact ⟨by omega, inner, notLast, empty⟩

theorem nodup_gaps (parts : List Text) : (gaps parts).Nodup :=
  List.nodup_range.filter _

theorem gaps_between {front back : List Text} (before : [] ∉ front) (after : [] ∉ back) :
    gaps (side front ++ [] :: side back) = [(side front).length] := by
  have positive := List.length_pos_iff.mpr (side_ne_nil front)
  have positive' := List.length_pos_iff.mpr (side_ne_nil back)
  have total : (side front ++ [] :: side back).length =
      (side front).length + 1 + (side back).length := by
    rw [List.length_append, List.length_cons]
    omega
  have only : ∀ place, place ∈ gaps (side front ++ [] :: side back) ↔
      place ∈ [(side front).length] := by
    intro place
    rw [mem_gaps, List.mem_singleton]
    constructor
    · rintro ⟨inner, notLast, empty⟩
      -- An empty piece of either side is alone there, so it would be the first piece or the last.
      rcases Nat.lt_trichotomy place (side front).length with left | middle | right
      · rw [List.getElem?_append_left left] at empty
        have first := (eq_zero_of_side_empty before empty).1
        omega
      · exact middle
      · rw [List.getElem?_append_right (by omega), List.getElem?_cons, if_neg (by omega)] at empty
        obtain ⟨first, none⟩ := eq_zero_of_side_empty after empty
        have single : (side back).length = 1 := by
          rw [none]
          rfl
        omega
    · rintro rfl
      refine ⟨positive, by omega, ?_⟩
      rw [List.getElem?_append_right (Nat.le_refl _), Nat.sub_self]
      rfl
  exact List.perm_singleton.mp
    ((List.perm_ext_iff_of_nodup (nodup_gaps _) (List.nodup_singleton _)).mpr only)

theorem beforeGap_side {front : List Text} (clean : [] ∉ front) (whole : Text) :
    beforeGap whole (side front) = .ok front := by
  by_cases none : front = []
  · subst none
    rfl
  · rw [side_of_ne_nil none, beforeGap, if_neg]
    intro empty
    exact clean (List.mem_of_head? empty)

theorem afterGap_side {back : List Text} (clean : [] ∉ back) (whole : Text) :
    afterGap whole (side back) = .ok back := by
  by_cases none : back = []
  · subst none
    rfl
  · rw [side_of_ne_nil none, afterGap, if_neg]
    intro empty
    exact clean (List.mem_of_getLast? empty)

/-- The pieces of a text, and the parts that stand for groups from its front and up to its end. -/
inductive Arranged : List Text → List Text → List Text → Prop
  | full {parts : List Text} (clean : [] ∉ parts) (eight : parts.length = 8) :
    Arranged parts parts []
  | gapped {front back : List Text} (before : [] ∉ front) (after : [] ∉ back)
    (short : front.length + back.length ≤ 7) :
    Arranged (side front ++ [] :: side back) front back

theorem Arranged.clean {parts front back : List Text} (arranged : Arranged parts front back) :
    [] ∉ front ∧ [] ∉ back := by
  cases arranged with
  | full clean eight => exact ⟨clean, List.not_mem_nil⟩
  | gapped before after short => exact ⟨before, after⟩

theorem arrange_of_arranged {parts front back : List Text} (arranged : Arranged parts front back)
    (whole : Text) : arrange whole parts = .ok (front, back) := by
  cases arranged with
  | full clean eight =>
    have none : gaps parts = [] := by
      rw [List.eq_nil_iff_forall_not_mem]
      intro place member
      exact clean (List.mem_of_getElem? (mem_gaps.mp member).2.2)
    have head : parts.head? ≠ some [] := fun empty => clean (List.mem_of_head? empty)
    have last : parts.getLast? ≠ some [] := fun empty => clean (List.mem_of_getLast? empty)
    rw [arrange, none]
    dsimp only
    rw [if_neg (not_not_intro eight), if_neg head, if_neg last]
  | gapped before after short =>
    have rest : (side front ++ [] :: side back).drop ((side front).length + 1) = side back := by
      rw [← List.drop_drop, List.drop_left]
      rfl
    rw [arrange, gaps_between before after]
    dsimp only
    rw [List.take_left, rest, beforeGap_side before, afterGap_side after]
    simp only [Bind.bind, Except.bind]
    rw [if_neg (Nat.not_lt.mpr short)]

theorem side_of_edge {parts kept : List Text} {edge : Option Text} {fault : Fault}
    (some : parts ≠ []) (alone : ∀ part, parts = [part] → edge = .some part)
    (inner : [] ∈ parts → edge = .some [])
    (read : (if edge = .some [] then if parts.length = 1 then .ok [] else .error fault
      else .ok parts) = Except.ok kept) : side kept = parts ∧ [] ∉ kept := by
  split at read
  · rename_i empty
    split at read
    · rename_i single
      cases read
      obtain ⟨part, rfl⟩ := List.length_eq_one_iff.mp single
      cases Option.some.inj ((alone part rfl).symm.trans empty)
      exact ⟨rfl, List.not_mem_nil⟩
    · cases read
  · rename_i full
    cases read
    exact ⟨side_of_ne_nil some, mt inner full⟩

theorem side_of_beforeGap {whole : Text} {parts front : List Text} (some : parts ≠ [])
    (inner : ∀ place, 0 < place → parts[place]? ≠ .some [])
    (read : beforeGap whole parts = .ok front) : side front = parts ∧ [] ∉ front := by
  refine side_of_edge some ?_ (fun member => ?_) read
  · rintro part rfl
    rfl
  · obtain ⟨place, found⟩ := List.mem_iff_getElem?.mp member
    rcases Nat.eq_zero_or_pos place with rfl | positive
    · exact List.head?_eq_getElem? ▸ found
    · exact absurd found (inner place positive)

theorem side_of_afterGap {whole : Text} {parts back : List Text} (some : parts ≠ [])
    (inner : ∀ place, place + 1 < parts.length → parts[place]? ≠ .some [])
    (read : afterGap whole parts = .ok back) : side back = parts ∧ [] ∉ back := by
  refine side_of_edge some ?_ (fun member => ?_) read
  · rintro part rfl
    rfl
  · obtain ⟨place, found⟩ := List.mem_iff_getElem?.mp member
    obtain ⟨inside, -⟩ := List.getElem?_eq_some_iff.mp found
    by_cases last : place + 1 < parts.length
    · exact absurd found (inner place last)
    · have here : place = parts.length - 1 := by omega
      rw [here] at found
      exact List.getLast?_eq_getElem? ▸ found

theorem end_or_gap {parts : List Text} {place : Nat} (empty : parts[place]? = some []) :
    place = 0 ∨ place + 1 = parts.length ∨ place ∈ gaps parts := by
  obtain ⟨inside, -⟩ := List.getElem?_eq_some_iff.mp empty
  by_cases inner : 0 < place ∧ place + 1 < parts.length
  · exact .inr (.inr (mem_gaps.mpr ⟨inner.1, inner.2, empty⟩))
  · omega

theorem nil_not_mem_of_gaps {parts : List Text} (none : gaps parts = [])
    (head : parts.head? ≠ some []) (last : parts.getLast? ≠ some []) : [] ∉ parts := by
  intro member
  obtain ⟨place, empty⟩ := List.mem_iff_getElem?.mp member
  rcases end_or_gap empty with first | final | gap
  · rw [first] at empty
    exact head (List.head?_eq_getElem? ▸ empty)
  · have here : place = parts.length - 1 := by omega
    rw [here] at empty
    exact last (List.getLast?_eq_getElem? ▸ empty)
  · rw [none] at gap
    exact absurd gap List.not_mem_nil

theorem arranged_of_gap {whole : Text} {parts front back : List Text} {gap : Nat}
    (one : gaps parts = [gap]) (before : beforeGap whole (parts.take gap) = .ok front)
    (after : afterGap whole (parts.drop (gap + 1)) = .ok back)
    (short : front.length + back.length ≤ 7) : Arranged parts front back := by
  have only : ∀ place, place ∈ gaps parts → place = gap := by
    intro place member
    rw [one] at member
    exact List.mem_singleton.mp member
  have hollow : gap ∈ gaps parts := by
    rw [one]
    exact List.mem_singleton_self gap
  obtain ⟨positive, inside, empty⟩ := mem_gaps.mp hollow
  have left : side front = parts.take gap ∧ [] ∉ front := by
    refine side_of_beforeGap ?_ (fun place inner found => ?_) before
    · rw [← List.length_pos_iff, List.length_take]
      omega
    · rw [List.getElem?_take] at found
      split at found
      · rcases end_or_gap found with first | final | member
        · omega
        · omega
        · have same := only _ member
          omega
      · cases found
  have right : side back = parts.drop (gap + 1) ∧ [] ∉ back := by
    refine side_of_afterGap ?_ (fun place inner found => ?_) after
    · rw [← List.length_pos_iff, List.length_drop]
      omega
    · rw [List.length_drop] at inner
      rw [List.getElem?_drop] at found
      rcases end_or_gap found with first | final | member
      · omega
      · omega
      · have same := only _ member
        omega
  have pieces : parts = side front ++ [] :: side back := by
    obtain ⟨here, same⟩ := List.getElem?_eq_some_iff.mp empty
    rw [left.1, right.1, ← same, List.getElem_cons_drop, List.take_append_drop]
  rw [pieces]
  exact .gapped left.2 right.2 short

theorem arrange_eq_ok_iff {whole : Text} {parts front back : List Text} :
    arrange whole parts = .ok (front, back) ↔ Arranged parts front back := by
  constructor
  · intro read
    rw [arrange] at read
    split at read
    · rename_i none
      obtain ⟨eight, read⟩ := guard_eq_ok.mp read
      obtain ⟨head, read⟩ := guard_eq_ok.mp read
      obtain ⟨last, read⟩ := guard_eq_ok.mp read
      cases read
      exact .full (nil_not_mem_of_gaps none head last) (not_not.mp eight)
    · rename_i gap one
      obtain ⟨front', before, read⟩ := bind_eq_ok.mp read
      obtain ⟨back', after, read⟩ := bind_eq_ok.mp read
      obtain ⟨short, read⟩ := guard_eq_ok.mp read
      cases read
      exact arranged_of_gap one before after (Nat.not_lt.mp short)
    · cases read
  · intro arranged
    exact arrange_of_arranged arranged whole

theorem SpellsTail.not_mem {parts : List Text} {groups : List Nat}
    (spelled : SpellsTail parts groups) {c : CodePoint} (foreign : Text.hexValue? c = none)
    (noDot : c ≠ '.') : ∀ part ∈ parts, c ∉ part := by
  cases spelled with
  | plain each => exact not_mem_of_groups each foreign
  | dotted each address =>
    intro part member
    rcases List.mem_append.mp member with inside | last
    · exact not_mem_of_groups each foreign part inside
    · rw [List.mem_singleton.mp last]
      exact V4.not_mem_text foreign noDot address

theorem SpellsTail.length {parts : List Text} {groups : List Nat}
    (spelled : SpellsTail parts groups) :
    parts.length ≤ groups.length ∧ groups.length ≤ parts.length + 1 := by
  cases spelled with
  | plain each =>
    have same := each.length_eq
    omega
  | dotted each address =>
    have same := each.length_eq
    simp only [List.length_append, List.length_cons, List.length_nil]
    omega

theorem SpellsTail.cons {part : Text} {parts : List Text} {group : Nat} {groups : List Nat}
    (first : SpellsGroup part group) (rest : SpellsTail parts groups) :
    SpellsTail (part :: parts) (group :: groups) := by
  cases rest with
  | plain each => exact .plain (.cons first each)
  | dotted each address => exact .dotted (.cons first each) address

inductive Expands : List Text → List Text → Prop
  | plain {pieces : List Text} {tail : Text} (clean : ('.' : CodePoint) ∉ tail) :
    Expands (pieces ++ [tail]) (pieces ++ [tail])
  | dotted (pieces : List Text) (address : V4) :
    Expands (pieces ++ [address.text]) (pieces ++ [Text.numeral 16 4 (address.value / 65536),
      Text.numeral 16 4 (address.value % 65536)])

theorem expandTail_eq_ok_iff {whole : Text} {pieces expanded : List Text} (some : pieces ≠ []) :
    expandTail whole pieces = .ok expanded ↔ Expands pieces expanded := by
  constructor
  · intro read
    rw [expandTail, List.getLast?_eq_some_getLast some] at read
    dsimp only at read
    split at read
    · cases found : V4.parse (pieces.getLast some) with
      | error cause =>
        rw [found] at read
        cases read
      | ok address =>
        rw [found] at read
        cases read
        have same := List.dropLast_concat_getLast some
        rw [V4.parse_eq_ok_iff.mp found] at same
        have dotted := Expands.dotted pieces.dropLast address
        rwa [same] at dotted
    · rename_i clean
      cases read
      have plain := @Expands.plain pieces.dropLast _ clean
      rwa [List.dropLast_concat_getLast some] at plain
  · intro expands
    cases expands with
    | plain clean =>
      rw [expandTail, List.getLast?_concat]
      dsimp only
      rw [if_neg clean]
    | dotted pieces address =>
      rw [expandTail, List.getLast?_concat]
      dsimp only
      rw [if_pos (V4.dot_mem_text address), V4.parse_text, List.dropLast_concat]

theorem SpellsTail.exists_expanded {parts : List Text} {groups : List Nat}
    (spelled : SpellsTail parts groups) (earlier : List Text) :
    ∃ expanded, Expands (earlier ++ side parts) (earlier ++ side expanded) ∧
      List.Forall₂ SpellsGroup expanded groups := by
  cases spelled with
  | plain each =>
    refine ⟨parts, ?_, each⟩
    have last := List.dropLast_concat_getLast (side_ne_nil parts)
    rw [← last, ← List.append_assoc]
    apply Expands.plain
    exact clean_side (not_mem_of_groups each (by decide)) _ (List.getLast_mem (side_ne_nil parts))
  | @dotted parts groups each address =>
    have high : address.value / 65536 < 65536 :=
      Nat.div_lt_of_lt_mul (show address.value < 65536 * 65536 from address.value_lt)
    have low : address.value % 65536 < 65536 := Nat.mod_lt _ (by decide)
    refine ⟨parts ++ [Text.numeral 16 4 (address.value / 65536),
      Text.numeral 16 4 (address.value % 65536)], ?_, ?_⟩
    · rw [side_of_ne_nil (by simp), side_of_ne_nil (by simp), ← List.append_assoc,
        ← List.append_assoc]
      exact .dotted _ address
    · exact List.rel_append each
        (.cons (spellsGroup_numeral high) (.cons (spellsGroup_numeral low) .nil))

theorem numeral_tail {address : V4} {parts : List Text} {groups : List Nat}
    (each : List.Forall₂ SpellsGroup (parts ++ [Text.numeral 16 4 (address.value / 65536),
      Text.numeral 16 4 (address.value % 65536)]) groups) :
    SpellsTail (parts ++ [address.text]) groups := by
  -- The numerals come last, so the induction is on what stands before them.
  induction parts generalizing groups with
  | nil =>
    cases each with
    | cons first rest =>
      cases rest with
      | cons second rest =>
        cases rest
        have high : address.value / 65536 < 65536 :=
          Nat.div_lt_of_lt_mul (show address.value < 65536 * 65536 from address.value_lt)
        have low : address.value % 65536 < 65536 := Nat.mod_lt _ (by decide)
        rw [first.unique (spellsGroup_numeral high), second.unique (spellsGroup_numeral low)]
        exact .dotted .nil address
  | cons part parts ih =>
    cases each with
    | cons first rest => exact (ih rest).cons first

theorem readGroups_of_pieces {whole : Text} {pieces expanded front back : List Text}
    {high low : List Nat} (cut : Text.splitAt ':' whole = pieces) (many : 3 ≤ pieces.length)
    (expands : Expands pieces expanded) (few : expanded.length ≤ 9)
    (arranged : Arranged expanded front back) (before : List.Forall₂ SpellsGroup front high)
    (after : List.Forall₂ SpellsGroup back low) :
    readGroups whole = .ok (high ++ List.replicate (8 - high.length - low.length) 0 ++ low) := by
  have some : whole ≠ [] := by
    rintro rfl
    rw [← cut] at many
    exact absurd many (by decide)
  have full : pieces ≠ [] := by
    rintro rfl
    exact absurd many (by decide)
  rw [readGroups, if_neg some, cut]
  dsimp only
  rw [if_neg (Nat.not_lt.mpr many), (expandTail_eq_ok_iff full).mpr expands]
  simp only [Bind.bind, Except.bind]
  rw [if_neg (Nat.not_lt.mpr few), arrange_of_arranged arranged]
  simp only [(mapM_readGroup_iff (nil_not_mem before)).mpr before,
    (mapM_readGroup_iff (nil_not_mem after)).mpr after]
  rfl

theorem splitAt_gapped {front back : List Text}
    (before : ∀ part ∈ front, (':' : CodePoint) ∉ part)
    (after : ∀ part ∈ back, (':' : CodePoint) ∉ part) :
    Text.splitAt ':' (Text.join ':' front ++ "::" ++ Text.join ':' back) =
      side front ++ [] :: side back := by
  have text : Text.join ':' front ++ "::" ++ Text.join ':' back =
      Text.join ':' front ++ (':' : CodePoint) :: ([] ++ (':' : CodePoint) :: Text.join ':' back) :=
    List.append_assoc _ _ _
  rw [text, Text.splitAt_append_cons, Text.splitAt_append_cons, splitAt_join_side before,
    splitAt_join_side after]
  rfl

theorem join_gapped (front back : List Text) :
    Text.join ':' (side front ++ [] :: side back) =
      Text.join ':' front ++ "::" ++ Text.join ':' back := by
  rw [Text.join_append ':' (side_ne_nil front) (by simp), Text.join_cons ':' [] (side_ne_nil back),
    join_side, join_side, List.append_assoc]
  rfl

theorem readGroups_of_spelled {whole : Text} {groups : List Nat}
    (spelled : SpellsGroups whole groups) : readGroups whole = .ok groups := by
  cases spelled with
  | @full parts _ each eight =>
    obtain ⟨expanded, expands, read⟩ := each.exists_expanded []
    have size := each.length
    have same := read.length_eq
    have cut : Text.splitAt ':' (Text.join ':' parts) = side parts :=
      splitAt_join_side (each.not_mem (by decide) (by decide))
    have full : expanded ≠ [] := by
      rintro rfl
      exact absurd (same.trans eight) (by decide)
    rw [List.nil_append, List.nil_append, side_of_ne_nil full] at expands
    have arranged : Arranged expanded expanded [] := .full (nil_not_mem read) (same.trans eight)
    rw [readGroups_of_pieces cut (by rw [length_side]; omega) expands (by omega) arranged read .nil,
      eight]
    simp
  | @gapped front back high low before after short =>
    obtain ⟨expanded, expands, read⟩ := after.exists_expanded (side front ++ [[]])
    have size := after.length
    have same := read.length_eq
    have same' := before.length_eq
    have cut : Text.splitAt ':' _ = side front ++ [] :: side back :=
      splitAt_gapped (not_mem_of_groups before (by decide)) (after.not_mem (by decide) (by decide))
    rw [List.append_assoc, List.append_assoc] at expands
    have arranged : Arranged (side front ++ [] :: side expanded) front expanded :=
      .gapped (nil_not_mem before) (nil_not_mem read) (by omega)
    refine readGroups_of_pieces cut ?_ expands ?_ arranged before read
    · rw [List.length_append, List.length_cons, length_side, length_side]
      omega
    · rw [List.length_append, List.length_append, List.length_singleton, length_side, length_side]
      omega

theorem behind_gap {pieces front back : List Text} {first second : Text} (some : first ≠ [])
    (same : pieces ++ [first, second] = side front ++ [] :: side back) :
    ∃ earlier, back = earlier ++ [first, second] ∧ pieces = side front ++ [] :: earlier := by
  have positive := List.length_pos_iff.mpr (side_ne_nil back)
  rcases List.append_eq_append_iff.mp same with ⟨rest, -, last⟩ | ⟨rest, early, last⟩
  · cases rest with
    | nil =>
      injection last with head
      exact absurd head some
    | cons piece rest =>
      have count := congrArg List.length last
      simp only [List.cons_append, List.length_cons, List.length_append, List.length_nil] at count
      omega
  · cases rest with
    | nil =>
      injection last with head
      exact absurd head.symm some
    | cons piece earlier =>
      injection last with head tail
      have full : back ≠ [] := by
        rintro rfl
        have count := congrArg List.length tail
        simp [side] at count
      rw [side_of_ne_nil full] at tail
      exact ⟨earlier, tail, head ▸ early⟩

theorem spelled_of_pieces {pieces expanded front back : List Text} {high low : List Nat}
    (expands : Expands pieces expanded) (arranged : Arranged expanded front back)
    (before : List.Forall₂ SpellsGroup front high) (after : List.Forall₂ SpellsGroup back low) :
    SpellsGroups (Text.join ':' pieces)
      (high ++ List.replicate (8 - high.length - low.length) 0 ++ low) := by
  have same := before.length_eq
  have same' := after.length_eq
  -- The same pieces end in a tail and lie around a gap: the equation between both is kept.
  generalize read : expanded = given at arranged
  cases arranged with
  | full clean eight =>
    subst read
    cases after
    rw [← same, eight]
    simp only [List.length_nil, Nat.sub_self, List.replicate_zero, List.append_nil]
    cases expands with
    | plain dotless => exact .full (.plain before) (same.symm.trans eight)
    | dotted pieces address => exact .full (numeral_tail before) (same.symm.trans eight)
  | gapped clean clean' short =>
    cases expands with
    | plain dotless =>
      rw [read, join_gapped]
      exact .gapped before (.plain after) (by omega)
    | dotted pieces address =>
      obtain ⟨earlier, rfl, rfl⟩ := behind_gap (Text.numeral_ne_nil (by decide)) read
      have text := join_gapped front (earlier ++ [address.text])
      rw [side_of_ne_nil (List.concat_ne_nil _ _)] at text
      rw [List.append_assoc, List.cons_append, text]
      exact .gapped before (numeral_tail after) (by omega)

theorem readGroups_eq_ok_iff {whole : Text} {groups : List Nat} :
    readGroups whole = .ok groups ↔ SpellsGroups whole groups := by
  constructor
  · intro read
    rw [readGroups] at read
    obtain ⟨-, read⟩ := guard_eq_ok.mp read
    obtain ⟨-, read⟩ := guard_eq_ok.mp read
    obtain ⟨expanded, tail, read⟩ := bind_eq_ok.mp read
    obtain ⟨-, read⟩ := guard_eq_ok.mp read
    obtain ⟨⟨front, back⟩, arranged, read⟩ := bind_eq_ok.mp read
    obtain ⟨high, before, read⟩ := bind_eq_ok.mp read
    obtain ⟨low, after, read⟩ := bind_eq_ok.mp read
    cases read
    have full : Text.splitAt ':' whole ≠ [] := Text.split_ne_nil _ whole
    have pieces := (expandTail_eq_ok_iff full).mp tail
    have sides := arrange_eq_ok_iff.mp arranged
    obtain ⟨clean, clean'⟩ := sides.clean
    have spelled := spelled_of_pieces pieces sides ((mapM_readGroup_iff clean).mp before)
      ((mapM_readGroup_iff clean').mp after)
    rwa [Text.join_splitAt] at spelled
  · exact readGroups_of_spelled

theorem SpellsGroups.not_mem {whole : Text} {groups : List Nat}
    (spelled : SpellsGroups whole groups) {c : CodePoint} (foreign : Text.hexValue? c = none)
    (noDot : c ≠ '.') (noColon : c ≠ ':') : c ∉ whole := by
  have outside : ∀ {parts groups}, SpellsTail parts groups → c ∉ Text.join ':' parts := by
    intro parts groups each member
    rcases Text.mem_join member with colon | ⟨part, inside, found⟩
    · exact noColon colon
    · exact each.not_mem foreign noDot part inside found
  cases spelled with
  | full each eight => exact outside each
  | gapped before after short =>
    rw [List.mem_append, List.mem_append]
    rintro ((left | middle) | right)
    · exact outside (.plain before) left
    · have colon : c ∈ [(':' : CodePoint), ':'] := middle
      simp [noColon] at colon
    · exact outside after right

theorem SpellsGroups.two_le_count_colon {whole : Text} {groups : List Nat}
    (spelled : SpellsGroups whole groups) : 2 ≤ whole.count (CodePoint.ofChar ':') := by
  cases spelled with
  | @full parts _ each eight =>
    have marks := Text.length_le_count_join ':' parts
    have sizes := each.length
    omega
  | gapped before after short =>
    have two : (Text.ofString "::").count (CodePoint.ofChar ':') = 2 := by decide
    rw [List.count_append, List.count_append, two]
    omega

theorem ofText?_scope (scope : Scope) : Scope.ofText? scope.text = some scope :=
  dif_pos ⟨scope.nonempty, scope.no_mark, scope.no_slash⟩

theorem text_of_ofText? {text : Text} {scope : Scope} (read : Scope.ofText? text = some scope) :
    scope.text = text := by
  rw [Scope.ofText?] at read
  split at read
  · cases read
    rfl
  · cases read

theorem takeWhile_mark {whole : Text} (clean : scopeMark ∉ whole) (rest : Text) :
    (whole ++ rest).takeWhile (· ≠ scopeMark) = whole ++ rest.takeWhile (· ≠ scopeMark) ∧
      (whole ++ rest).dropWhile (· ≠ scopeMark) = rest.dropWhile (· ≠ scopeMark) := by
  have all : ∀ c ∈ whole, decide (c ≠ scopeMark) = true := by
    intro c member
    rw [decide_eq_true_iff]
    rintro rfl
    exact clean member
  exact ⟨List.takeWhile_append_of_pos all, List.dropWhile_append_of_pos all⟩

theorem splitScope_of_no_mark {whole : Text} (clean : scopeMark ∉ whole) :
    splitScope whole = .ok (whole, none) := by
  have parts := takeWhile_mark clean []
  rw [List.append_nil] at parts
  rw [splitScope, parts.1, parts.2]
  simp

theorem splitScope_append {whole : Text} (clean : scopeMark ∉ whole) (scope : Scope) :
    splitScope (whole ++ scopeMark :: scope.text) = .ok (whole, some scope) := by
  have parts := takeWhile_mark clean (scopeMark :: scope.text)
  rw [splitScope, parts.1, parts.2]
  simp [ofText?_scope]

theorem splitScope_eq_ok {text whole : Text} {scope : Option Scope}
    (read : splitScope text = .ok (whole, scope)) :
    (scope = none ∧ text = whole) ∨ ∃ given, scope = some given ∧
      text = whole ++ scopeMark :: given.text := by
  have pieces := List.takeWhile_append_dropWhile (p := (· ≠ scopeMark)) (l := text)
  have stop := List.head?_dropWhile_not (· ≠ scopeMark) text
  rw [splitScope] at read
  split at read
  · rename_i unmarked
    cases read
    rw [unmarked, List.append_nil] at pieces
    exact .inl ⟨rfl, pieces.symm⟩
  · rename_i mark tail marked
    split at read
    · rename_i given found
      cases read
      rw [marked] at stop pieces
      have here : mark = scopeMark := by simpa using stop
      refine .inr ⟨given, rfl, ?_⟩
      rw [here] at pieces
      rw [text_of_ofText? found, pieces]
    · cases read

theorem parse_eq_ok_iff {text : Text} {address : V6} :
    parse text = .ok address ↔ Spells text address := by
  constructor
  · intro read
    rw [parse] at read
    obtain ⟨-, read⟩ := guard_eq_ok.mp read
    obtain ⟨⟨whole, scope⟩, parts, read⟩ := bind_eq_ok.mp read
    obtain ⟨groups, found, read⟩ := bind_eq_ok.mp read
    cases read
    have spelled := readGroups_eq_ok_iff.mp found
    rcases splitScope_eq_ok parts with ⟨rfl, rfl⟩ | ⟨given, rfl, rfl⟩
    · exact .plain spelled
    · exact .onLink spelled given
  · intro spelled
    cases spelled with
    | plain spelled =>
      have noSlash : ('/' : CodePoint) ∉ text :=
        spelled.not_mem (by decide) (by decide) (by decide)
      have noMark : scopeMark ∉ text := spelled.not_mem (by decide) (by decide) (by decide)
      rw [parse, if_neg noSlash, splitScope_of_no_mark noMark]
      simp only [Bind.bind, Except.bind]
      rw [readGroups_of_spelled spelled]
      rfl
    | @onLink whole groups spelled scope =>
      have noSlash : ('/' : CodePoint) ∉ whole ++ scopeMark :: scope.text := by
        rw [List.mem_append, List.mem_cons]
        rintro (inside | mark | inside)
        · exact spelled.not_mem (by decide) (by decide) (by decide) inside
        · exact absurd mark (by decide)
        · exact scope.no_slash inside
      have noMark : scopeMark ∉ whole := spelled.not_mem (by decide) (by decide) (by decide)
      rw [parse, if_neg noSlash, splitScope_append noMark]
      simp only [Bind.bind, Except.bind]
      rw [readGroups_of_spelled spelled]
      rfl

end ThreadLab.Ip.V6
