import BuildMigration.Text.CharClass
import BuildMigration.Text.Pattern
import BuildMigration.Text.Regex
/-!
# The version banner

Build files that a project generator writes carry a comment such as
`// Use Scala 2.13 in our library project`. The *banner* is `Use Scala `, then a nonempty run
of characters that are not blank, then a space. The run is maximal: it ends at the first
blank, which must be the space.

* `banner_matchAt_eq`: a banner at the front of a text is its lead, its run and a space.
-/

namespace BuildMigration.BuildText

open Text

/-- The words that open a banner, with the space after them. -/
def bannerLead : List Char := "Use Scala ".toList

/-- Whether the character may stand in the version run of a banner. -/
def inBannerRun (c : Char) : Bool := !isBlank c

/-- The banner at the front of a text, and the rest. -/
def bannerAt (s : List Char) : Option (List Char × List Char) :=
  match stripPrefix? bannerLead s with
  | none => none
  | some rest =>
    match rest.takeWhile inBannerRun, rest.dropWhile inBannerRun with
    | run@(_ :: _), ' ' :: after => some (bannerLead ++ run ++ [' '], after)
    | _, _ => none

theorem banner_matchAt_eq {s m r : List Char} (h : bannerAt s = some (m, r)) :
    ∃ run, run ≠ [] ∧ (∀ c ∈ run, inBannerRun c) ∧ m = bannerLead ++ run ++ [' '] ∧
      s = m ++ r := by
  unfold bannerAt at h
  split at h
  · simp at h
  · rename_i rest hrest
    have hs := eq_append_of_stripPrefix? hrest
    split at h
    · rename_i run c cs after hrun hafter
      simp only [Option.some.injEq, Prod.mk.injEq] at h
      obtain ⟨rfl, rfl⟩ := h
      refine ⟨c :: cs, by simp, ?_, rfl, ?_⟩
      · intro x hx
        rw [← hrun] at hx
        exact of_mem_takeWhile hx
      · have := List.takeWhile_append_dropWhile (p := inBannerRun) (l := rest)
        rw [hrun, hafter] at this
        rw [hs, ← this]
        simp
    · simp at h

/-- The banner as a regular expression, `Use Scala \S+ `: the lead, a greedy run of characters
    that are not blank, and a space. -/
def bannerRegex : Regex :=
  .seq (.lit bannerLead) (.seq (.many inBannerRun 1) (.lit [' ']))

/-- The banner pattern. -/
def banner : Pattern where
  matchAt := bannerAt
  matchAt_eq h := by
    obtain ⟨_, _, _, _, hs⟩ := banner_matchAt_eq h
    exact hs
  matchAt_ne_nil h := by
    obtain ⟨_, _, _, hm, _⟩ := banner_matchAt_eq h
    simp [hm]

end BuildMigration.BuildText
