import BuildMigration.Text.Pattern
import BuildMigration.Text.Regex
/-!
# The Scala 2 library coordinate

Build files quote their values with `"` or `'`; the patterns of this library open a value with
one of the two and close it with the same one.

A build file depends on the Scala 2 standard library through a quoted coordinate such as
`"org.scala-lang:scala-library:2.13.8"`. The *coordinate* pattern is a quote, the text
`org.scala-lang:scala-library:`, a maximal run of characters that are neither a quote nor a
line feed (a carriage return may stand in it), and the same quote again.

* `coordinate_matchAt_eq`: a coordinate at the front of a text is a quote, the lead, the run
  and the quote.
-/

namespace BuildMigration.BuildText

open Text

/-- Whether the character quotes a value. -/
def isQuote (c : Char) : Bool := c = '"' || c = '\''

/-- The text that follows the opening quote of a coordinate. -/
def coordinateLead : List Char := "org.scala-lang:scala-library:".toList

/-- Whether the character may stand in the version part of a coordinate. -/
def inCoordinateRun (c : Char) : Bool := !isQuote c && c != '\n'

/-- The coordinate at the front of a text, and the rest. -/
def coordinateAt : List Char → Option (List Char × List Char)
  | [] => none
  | q :: s =>
    if isQuote q then
      match stripPrefix? coordinateLead s with
      | none => none
      | some rest =>
        match rest.dropWhile inCoordinateRun with
        | c :: after =>
          if c = q then some (q :: coordinateLead ++ rest.takeWhile inCoordinateRun ++ [q], after)
          else none
        | [] => none
    else none

theorem coordinate_matchAt_eq {s m r : List Char} (h : coordinateAt s = some (m, r)) :
    ∃ q run, isQuote q ∧ (∀ c ∈ run, inCoordinateRun c) ∧
      m = q :: coordinateLead ++ run ++ [q] ∧ s = m ++ r := by
  match s, h with
  | q :: s, h =>
    simp only [coordinateAt] at h
    split at h
    · rename_i hq
      split at h
      · simp at h
      · rename_i rest hrest
        have hs := eq_append_of_stripPrefix? hrest
        split at h
        · rename_i c after hafter
          split at h
          · rename_i hc
            subst hc
            simp only [Option.some.injEq, Prod.mk.injEq] at h
            obtain ⟨rfl, rfl⟩ := h
            refine ⟨c, rest.takeWhile inCoordinateRun, hq, fun x hx => of_mem_takeWhile hx, rfl, ?_⟩
            have := List.takeWhile_append_dropWhile (p := inCoordinateRun) (l := rest)
            rw [hafter] at this
            conv => lhs; rw [hs, ← this]
            simp
          · simp at h
        · simp at h
    · simp at h

/-- The coordinate as a regular expression,
    `(["'])org\.scala-lang:scala-library:[^"'\n]*\1`: a quote, the lead, a greedy run of
    characters that are neither a quote nor a line feed, and the same quote again. -/
def coordinateRegex : Regex :=
  .seq (.group 1 (.char isQuote))
    (.seq (.lit coordinateLead) (.seq (.many inCoordinateRun 0) (.backref 1)))

/-- The coordinate pattern. -/
def coordinate : Pattern where
  matchAt := coordinateAt
  matchAt_eq h := by
    obtain ⟨_, _, _, _, _, hs⟩ := coordinate_matchAt_eq h
    exact hs
  matchAt_ne_nil h := by
    obtain ⟨_, _, _, _, hm, _⟩ := coordinate_matchAt_eq h
    simp [hm]

end BuildMigration.BuildText
