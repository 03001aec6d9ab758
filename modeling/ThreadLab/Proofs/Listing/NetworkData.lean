import ThreadLab.Listing.NetworkData
import ThreadLab.Proofs.Text.Search

namespace ThreadLab.Listing.NetworkData

/-- A listing cut into what stands before the section of the prefixes, that section with its title,
and what stands behind the title that ends it. -/
structure Cut (listing before body after : Text) : Prop where
  whole : listing = before ++ body ++ routesTitle ++ after
  titled : prefixesTitle <+: body
  first : ∀ place < before.length, ¬Text.BeginsAt prefixesTitle listing place
  shortest : ∀ place < body.length, ¬Text.BeginsAt routesTitle (body ++ routesTitle) place

/-- What a listing without the section lacks: the title of the prefixes, or a title of the routes
behind the first one of the prefixes. -/
inductive Lacks (listing : Text) : Prop
  | prefixes (missing : ¬prefixesTitle <:+: listing)
  | routes {title : Nat} (first : Text.FirstAt prefixesTitle listing title)
    (missing : ∀ place > title, ¬Text.BeginsAt routesTitle listing place)

theorem titled_of_ended {body found : Text} (titled : prefixesTitle <+: body ++ found)
    (ended : routesTitle <+: found) : prefixesTitle <+: body := by
  have enough : prefixesTitle.length ≤ body.length := by
    apply Nat.le_of_not_lt
    intro short
    obtain ⟨rest, split⟩ := titled
    have begins : Text.BeginsAt routesTitle (prefixesTitle ++ rest) body.length := by
      rw [split, Text.beginsAt_length]
      exact ended
    exact Text.not_beginsAt_of_foreign (c := 'R') (by decide) short _ rest begins
  exact List.prefix_of_prefix_length_le titled (List.prefix_append body found) enough

theorem shortest_iff (body after : Text) :
    (∀ place < body.length, ¬Text.BeginsAt routesTitle (body ++ (routesTitle ++ after)) place) ↔
      ∀ place < body.length, ¬Text.BeginsAt routesTitle (body ++ routesTitle) place := by
  refine forall₂_congr fun place inside => not_congr ?_
  rw [← List.append_assoc]
  apply Text.beginsAt_append_iff
  rw [List.length_append]
  omega

theorem routes_missing_iff {before found : Text} (titled : prefixesTitle <+: found) :
    (∀ place > before.length, ¬Text.BeginsAt routesTitle (before ++ found) place) ↔
      ¬routesTitle <:+: found := by
  rw [← Text.exists_beginsAt_iff, not_exists]
  constructor
  · intro missing place begins
    cases place with
    | zero =>
      have inside : routesTitle <+: found := begins
      have same := List.prefix_of_prefix_length_le inside titled (by decide)
      exact absurd same (by decide)
    | succ place =>
      have behind : before.length + (place + 1) > before.length := by omega
      exact missing _ behind (Text.beginsAt_add.mpr begins)
  · intro missing place behind
    obtain ⟨further, rfl⟩ := Nat.exists_eq_add_of_le (Nat.le_of_lt behind)
    rw [Text.beginsAt_add]
    exact missing further

namespace Cut

variable {listing before body after : Text}

theorem opened (cut : Cut listing before body after) :
    Text.breakOn prefixesTitle listing = some (before, body ++ (routesTitle ++ after)) := by
  have whole : listing = before ++ (body ++ (routesTitle ++ after)) := by
    rw [cut.whole, List.append_assoc, List.append_assoc]
  refine Text.breakOn_eq_some_iff.mpr ⟨whole, ?_, cut.first⟩
  rw [whole, Text.beginsAt_length]
  exact cut.titled.trans (List.prefix_append _ _)

theorem closed (cut : Cut listing before body after) :
    Text.breakOn routesTitle (body ++ (routesTitle ++ after)) = some (body, routesTitle ++ after) :=
  Text.breakOn_append (List.prefix_append _ _) ((shortest_iff body after).mpr cut.shortest)

theorem unique {before' body' after' : Text} (cut : Cut listing before body after)
    (cut' : Cut listing before' body' after') :
    before = before' ∧ body = body' ∧ after = after' := by
  have found := Option.some.inj (cut.opened.symm.trans cut'.opened)
  obtain ⟨rfl, behind⟩ := Prod.mk.inj found
  have ended := cut.closed
  rw [behind, cut'.closed] at ended
  obtain ⟨rfl, routes⟩ := Prod.mk.inj (Option.some.inj ended)
  exact ⟨rfl, rfl, (List.append_cancel_left routes).symm⟩

theorem again (cut : Cut listing before body after) (rest : Text) :
    Cut (body ++ routesTitle ++ rest) [] body rest where
  whole := rfl
  titled := cut.titled
  first := nofun
  shortest := cut.shortest

end Cut

theorem cut_of_breakOn {listing before found body ended : Text}
    (opened : Text.breakOn prefixesTitle listing = some (before, found))
    (closed : Text.breakOn routesTitle found = some (body, ended)) :
    ∃ after, Cut listing before body after := by
  obtain ⟨rfl, titled, first⟩ := Text.breakOn_eq_some_iff.mp opened
  obtain ⟨rfl, closing, shortest⟩ := Text.breakOn_eq_some_iff.mp closed
  rw [Text.beginsAt_length] at titled closing
  have title := titled_of_ended titled closing
  obtain ⟨after, rfl⟩ := closing
  refine ⟨after, ?_, title, first, (shortest_iff body after).mp shortest⟩
  rw [List.append_assoc, List.append_assoc]

theorem prefixes_eq_ok_iff {listing body : Text} :
    prefixes listing = .ok body ↔ ∃ before after, Cut listing before body after := by
  constructor
  · intro found
    unfold prefixes at found
    split at found
    · cases found
    · rename_i before behind opened
      split at found
      · cases found
      · rename_i ended closed
        cases found
        exact ⟨before, cut_of_breakOn opened closed⟩
  · rintro ⟨before, after, cut⟩
    rw [prefixes, cut.opened]
    dsimp only
    rw [cut.closed]

theorem prefixes_eq_error_iff {listing : Text} {fault : Fault} :
    prefixes listing = .error fault ↔ fault = .noSection ∧ Lacks listing := by
  constructor
  · intro failed
    unfold prefixes at failed
    split at failed
    · rename_i missing
      exact ⟨(Except.error.inj failed).symm, .prefixes (Text.breakOn_eq_none_iff.mp missing)⟩
    · rename_i before found opened
      split at failed
      · rename_i missing
        obtain ⟨rfl, first⟩ := Text.breakOn_eq_some_iff.mp opened
        have titled := Text.beginsAt_length.mp first.1
        exact ⟨(Except.error.inj failed).symm,
          .routes first ((routes_missing_iff titled).mpr (Text.breakOn_eq_none_iff.mp missing))⟩
      · cases failed
  · rintro ⟨rfl, lacks⟩
    cases lacks with
    | prefixes missing => rw [prefixes, Text.breakOn_eq_none_iff.mpr missing]
    | routes first missing =>
      obtain ⟨before, found, rfl, rfl⟩ := first.exists_append
      have absent := (routes_missing_iff (Text.beginsAt_length.mp first.1)).mp missing
      rw [prefixes, Text.breakOn_eq_some_iff.mpr ⟨rfl, first⟩]
      dsimp only
      rw [Text.breakOn_eq_none_iff.mpr absent]

theorem lacks_iff {listing : Text} :
    Lacks listing ↔ ¬∃ before body after, Cut listing before body after := by
  have failed : Lacks listing ↔ prefixes listing = .error .noSection := by
    rw [prefixes_eq_error_iff, eq_self, true_and]
  rw [failed]
  cases result : prefixes listing with
  | ok body =>
    obtain ⟨before, after, cut⟩ := prefixes_eq_ok_iff.mp result
    exact iff_of_false nofun fun none => none ⟨before, body, after, cut⟩
  | error fault =>
    rw [(prefixes_eq_error_iff.mp result).1]
    refine iff_of_true rfl ?_
    rintro ⟨before, body, after, cut⟩
    rw [prefixes_eq_ok_iff.mpr ⟨before, after, cut⟩] at result
    cases result

/-- The section of the prefixes is cut out where the listing has one, which then begins at the first
title of the prefixes and ends before the first title of the routes behind it; otherwise one of the
two titles is missing. From the section and what follows it, the same section is cut again. -/
theorem prefixes_cut :
    (∀ listing body, prefixes listing = .ok body ↔ ∃ before after, Cut listing before body after) ∧
    (∀ listing before body after before' body' after', Cut listing before body after →
      Cut listing before' body' after' → before = before' ∧ body = body' ∧ after = after') ∧
    (∀ listing fault, prefixes listing = .error fault ↔
      fault = .noSection ∧ ¬∃ before body after, Cut listing before body after) ∧
    (∀ listing, (¬∃ before body after, Cut listing before body after) ↔ Lacks listing) ∧
    ∀ listing body rest, prefixes listing = .ok body →
      prefixes (body ++ routesTitle ++ rest) = .ok body := by
  refine ⟨fun _ _ => prefixes_eq_ok_iff, fun _ _ _ _ _ _ _ cut cut' => cut.unique cut', ?_,
    fun _ => lacks_iff.symm, ?_⟩
  · intro listing fault
    rw [prefixes_eq_error_iff, lacks_iff]
  · intro listing body rest found
    obtain ⟨before, after, cut⟩ := prefixes_eq_ok_iff.mp found
    exact prefixes_eq_ok_iff.mpr ⟨[], rest, cut.again rest⟩

def repeatedTitles : Text :=
  "Routes:\nPrefixes:\nPrefixes:\nRoutes:\nRoutes:"

def repeatedSection : Text :=
  "Prefixes:\nPrefixes:\n"

def earlyRoutes : Text :=
  "Routes: Prefixes: Route"

theorem prefixes_cut_repeated :
    prefixes repeatedTitles = .ok repeatedSection ∧
      (∃ before after, Cut repeatedTitles before repeatedSection after) ∧
      (∀ before body after, Cut repeatedTitles before body after → body = repeatedSection) ∧
      prefixes (repeatedSection ++ routesTitle ++ repeatedTitles) = .ok repeatedSection ∧
      prefixes earlyRoutes = .error .noSection ∧ Lacks earlyRoutes := by
  have found : prefixes repeatedTitles = .ok repeatedSection := rfl
  have failed : prefixes earlyRoutes = .error .noSection := rfl
  obtain ⟨read, unique, fails, lacks, again⟩ := prefixes_cut
  obtain ⟨before, after, cut⟩ := (read repeatedTitles repeatedSection).mp found
  have uncut := ((fails earlyRoutes .noSection).mp failed).2
  have back := again repeatedTitles repeatedSection repeatedTitles found
  refine ⟨found, ⟨before, after, cut⟩, ?_, back, failed, (lacks earlyRoutes).mp uncut⟩
  intro before' body' after' cut'
  exact (unique _ _ _ _ _ _ _ cut' cut).2.1

end ThreadLab.Listing.NetworkData
