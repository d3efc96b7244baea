import BuildMigration.Text.Pattern
import BuildMigration.Text.CharClass
import BuildMigration.Text.Regex
/-!
# Entry points

Scala 2 applications generated by Gradle start in an object `App`, referred to as
`<package>.App`; Scala 3 applications start in a method `main`. The *entry-point rename*
turns the first `.App` of a text into `.main`, wherever it stands, with no regard to what
follows (`a.Apple` becomes `a.mainle`). A *legacy reference* is a `.App` that ends a word: the
character after it, if any, is not a word character.

* `renameEntryPoint_of_find?_none`: a text without `.App` keeps its entry point.
-/

namespace BuildMigration.BuildText

open Text

/-- The text that names the Scala 2 entry point. -/
def legacyEntry : List Char := ".App".toList

/-- The text that names the Scala 3 entry point. -/
def modernEntry : List Char := ".main".toList

/-- `.App` at the front of a text, and the rest. -/
def entryAt (s : List Char) : Option (List Char × List Char) :=
  (stripPrefix? legacyEntry s).map fun rest => (legacyEntry, rest)

/-- Whether a word ends before the text: the text is empty or starts with a character that is
    not a word character. -/
def endsWord : List Char → Bool
  | [] => true
  | c :: _ => !isWordChar c

/-- A `.App` at the front of a text that ends a word, and the rest. -/
def legacyReferenceAt (s : List Char) : Option (List Char × List Char) :=
  match stripPrefix? legacyEntry s with
  | some rest => if endsWord rest then some (legacyEntry, rest) else none
  | none => none

/-- The pattern of every `.App`. -/
def entry : Pattern where
  matchAt := entryAt
  matchAt_eq h := by
    simp only [entryAt, Option.map_eq_some_iff, Prod.mk.injEq] at h
    obtain ⟨rest, hr, rfl, rfl⟩ := h
    exact eq_append_of_stripPrefix? hr
  matchAt_ne_nil h := by
    simp only [entryAt, Option.map_eq_some_iff, Prod.mk.injEq] at h
    obtain ⟨_, _, rfl, _⟩ := h
    simp [legacyEntry]

/-- A legacy reference as a regular expression, `\.App\b`: `.App` and a word boundary. -/
def legacyReferenceRegex : Regex :=
  .seq (.lit legacyEntry) .boundary

/-- The pattern of a `.App` that ends a word. -/
def legacyReference : Pattern where
  matchAt := legacyReferenceAt
  matchAt_eq h := by
    unfold legacyReferenceAt at h
    split at h
    · rename_i rest hr
      split at h
      · simp only [Option.some.injEq, Prod.mk.injEq] at h
        obtain ⟨rfl, rfl⟩ := h
        exact eq_append_of_stripPrefix? hr
      · simp at h
    · simp at h
  matchAt_ne_nil h := by
    unfold legacyReferenceAt at h
    split at h
    · split at h
      · simp only [Option.some.injEq, Prod.mk.injEq] at h
        obtain ⟨rfl, rfl⟩ := h
        simp [legacyEntry]
      · simp at h
    · simp at h

/-- The text with its first `.App` turned into `.main`. -/
def renameEntryPoint (text : List Char) : List Char :=
  entry.replaceFirst (fun _ => modernEntry) text

theorem renameEntryPoint_of_find?_none {text : List Char} (h : entry.find? text = none) :
    renameEntryPoint text = text :=
  entry.replaceFirst_of_find?_none _ h

end BuildMigration.BuildText
