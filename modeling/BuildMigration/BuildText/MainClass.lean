import BuildMigration.BuildText.Coordinate
import BuildMigration.Error
import BuildMigration.Text.CharClass
import BuildMigration.Text.Pattern
import BuildMigration.Text.Regex
/-!
# The main class

An application's build file names its entry point as a quoted value, for instance
`mainClass = "com.example.demo.App"`. The *main class* pattern is a quote, a maximal run of
characters that are neither quotes nor blank, and the same quote again, where the run is a
nonempty name followed by `.App` or `.main`. The run is the main class; its package is the
run cut at the dots, without the last piece. Empty pieces are kept, so `..App` lies in the
package `["", ""]`.

* `mainClass_matchAt_eq`: a main class at the front of a text is a quote, an entry name and
  the quote.
* `packagePath_eq_error_iff`: the package path fails exactly when no main class is found.
-/

namespace BuildMigration.BuildText

open Text

/-- Whether the character may stand in a main class. -/
def inClassName (c : Char) : Bool := !isQuote c && !isBlank c

/-- Whether a class name is a nonempty name followed by `.App` or `.main`. -/
def isEntryName (run : List Char) : Bool :=
  (".App".toList.isSuffixOf run && 4 < run.length) ||
    (".main".toList.isSuffixOf run && 5 < run.length)

/-- The quoted main class at the front of a text, and the rest. -/
def mainClassAt : List Char → Option (List Char × List Char)
  | [] => none
  | q :: s =>
    if isQuote q then
      match s.dropWhile inClassName with
      | c :: after =>
        if c = q && isEntryName (s.takeWhile inClassName) then
          some (q :: s.takeWhile inClassName ++ [q], after)
        else none
      | [] => none
    else none

theorem mainClass_matchAt_eq {s m r : List Char} (h : mainClassAt s = some (m, r)) :
    ∃ q run, isQuote q ∧ (∀ c ∈ run, inClassName c) ∧ isEntryName run ∧
      m = q :: run ++ [q] ∧ s = m ++ r := by
  match s, h with
  | q :: s, h =>
    simp only [mainClassAt] at h
    split at h
    · rename_i hq
      split at h
      · rename_i c after hafter
        split at h
        · rename_i hc
          simp only [Bool.and_eq_true, decide_eq_true_eq] at hc
          obtain ⟨rfl, hentry⟩ := hc
          simp only [Option.some.injEq, Prod.mk.injEq] at h
          obtain ⟨rfl, rfl⟩ := h
          refine ⟨c, s.takeWhile inClassName, hq, fun x hx => of_mem_takeWhile hx, hentry, rfl, ?_⟩
          have := List.takeWhile_append_dropWhile (p := inClassName) (l := s)
          rw [hafter] at this
          conv => lhs; rw [← this]
          simp
        · simp at h
      · simp at h
    · simp at h

/-- The main class as a regular expression, `(["'])([^"'\s]+\.(?:App|main))\1`: a quote, a
    greedy run of name characters that gives back what `.App` or `.main` needs, and the same
    quote again. -/
def mainClassRegex : Regex :=
  .seq (.group 1 (.char isQuote))
    (.seq (.group 2 (.seq (.many inClassName 1)
        (.seq (.lit ['.']) (.alt (.lit "App".toList) (.lit "main".toList)))))
      (.backref 1))

/-- The main-class pattern. -/
def mainClass : Pattern where
  matchAt := mainClassAt
  matchAt_eq h := by
    obtain ⟨_, _, _, _, _, _, hs⟩ := mainClass_matchAt_eq h
    exact hs
  matchAt_ne_nil h := by
    obtain ⟨_, _, _, _, _, hm, _⟩ := mainClass_matchAt_eq h
    simp [hm]

/-- The main class of the leftmost match: the match without its quotes. -/
def mainClassName? (text : List Char) : Option (List Char) :=
  (mainClass.find? text).map fun f => (f.matched.drop 1).dropLast

/-- The package of the main class: its dot-separated pieces without the last. -/
def packagePath (text : List Char) : Except MigrationError (List String) :=
  match mainClassName? text with
  | some name => .ok (((splitOn '.' name).dropLast).map String.ofList)
  | none => .error .unexpectedMainClass

theorem packagePath_eq_error_iff {text : List Char} {e : MigrationError} :
    packagePath text = .error e ↔ mainClassName? text = none ∧ e = .unexpectedMainClass := by
  unfold packagePath
  cases mainClassName? text with
  | some name => simp
  | none => simp [eq_comm]

end BuildMigration.BuildText
