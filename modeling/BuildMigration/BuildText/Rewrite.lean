import BuildMigration.BuildText.Banner
import BuildMigration.BuildText.Coordinate
import BuildMigration.BuildText.EntryPoint
import BuildMigration.Template
/-!
# Rewriting a build file for Scala 3

A build file is rewritten in three steps, each on the result of the one before: the first
version banner names the target version, the first Scala 2 library coordinate becomes the
Scala 3 library at the target version (always quoted with `"`), and, for an application, the
first `.App` becomes `.main`. The new texts are replacement templates with the version
spliced in, so a version with a backslash can make a step fail; the banner's template is
read first.

What the steps leave behind is reported as *leftovers*: the coordinates still in the text,
and, for an application, the legacy references to `.App` that end a word.

* `rewrite_eq_error_iff`: rewriting fails exactly when one of the two templates is faulty,
  with the banner's fault first; the text plays no part.
-/

namespace BuildMigration.BuildText

open Text

/-- The banner's replacement for a version. -/
def bannerTemplate (version : List Char) : List Char := bannerLead ++ version ++ [' ']

/-- The text that opens the Scala 3 library coordinate, with its quote. -/
def scala3Lead : List Char := "\"org.scala-lang:scala3-library_3:".toList

/-- The coordinate's replacement for a version. -/
def coordinateTemplate (version : List Char) : List Char := scala3Lead ++ version ++ ['"']

/-- The text with its first banner naming the version. -/
def replaceBanner (text version : List Char) : Except TemplateFault (List Char) :=
  match Template.parse 0 (bannerTemplate version) with
  | .error e => .error e
  | .ok t => .ok (banner.replaceFirst (fun m => t.expand fun _ => m) text)

/-- The text with its first Scala 2 library coordinate replaced by the Scala 3 library at the
    version. Group 1 of a coordinate is its quote. -/
def replaceCoordinate (text version : List Char) : Except TemplateFault (List Char) :=
  match Template.parse 1 (coordinateTemplate version) with
  | .error e => .error e
  | .ok t => .ok (coordinate.replaceFirst (fun m => t.expand fun n => if n = 0 then m else m.take 1) text)

/-- The build text rewritten for the version: banner, coordinate and, unless the build is a
    library, the entry point. -/
def rewrite (text version : List Char) (isLibrary : Bool) : Except TemplateFault (List Char) :=
  match replaceBanner text version with
  | .error e => .error e
  | .ok t1 =>
    match replaceCoordinate t1 version with
    | .error e => .error e
    | .ok t2 => .ok (if isLibrary then t2 else renameEntryPoint t2)

/-- Something a rewrite left in the build file. -/
inductive Leftover where
  /-- Scala 2 library coordinates that are still there. -/
  | coordinates (count : Nat)
  /-- References to `.App` that are still there. -/
  | legacyReferences (count : Nat)
  deriving DecidableEq, Repr

/-- How a leftover is reported. -/
def Leftover.message : Leftover → String
  | .coordinates count =>
    toString count ++ " more org.scala-lang:scala-library dependency(ies) left unchanged"
  | .legacyReferences count => toString count ++ " more '.App' reference(s) left unchanged"

/-- The leftovers of a rewritten build text: coordinates, then, for an application, legacy
    references; a kind that does not occur is not reported. -/
def leftovers (text : List Char) (isLibrary : Bool) : List Leftover :=
  let k := coordinate.count text
  let m := legacyReference.count text
  (if k = 0 then [] else [.coordinates k]) ++
    (if isLibrary || m = 0 then [] else [.legacyReferences m])

theorem rewrite_eq_error_iff {text version : List Char} {isLibrary : Bool} {e : TemplateFault} :
    rewrite text version isLibrary = .error e ↔
      Template.parse 0 (bannerTemplate version) = .error e ∨
        ((∃ t, Template.parse 0 (bannerTemplate version) = .ok t) ∧
          Template.parse 1 (coordinateTemplate version) = .error e) := by
  unfold rewrite replaceCoordinate replaceBanner
  cases Template.parse 0 (bannerTemplate version) with
  | error e0 => simp
  | ok t0 =>
    cases Template.parse 1 (coordinateTemplate version) with
    | error e1 => simp
    | ok t1 => simp

end BuildMigration.BuildText
