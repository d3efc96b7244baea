import BuildMigration.Path
import BuildMigration.Text.Quoted
/-!
# Expected failures

A migration stops with an *expected failure* when the user asked for something that cannot
be done: a malformed version, a negative header length, a project without a build file, or
a build file whose main class does not follow the `.App` or `.main` convention. Each
failure is one constructor, and `MigrationError.message` holds its wording, the one line
that the command line prints after `ERROR:`.
-/

namespace BuildMigration

/-- Why a migration cannot be done. -/
inductive MigrationError where
  /-- The target version is not three groups of one to three digits. -/
  | invalidVersion (given : String)
  /-- The number of header lines to keep is negative. -/
  | negativeHeaderLines (count : Int)
  /-- No build file was found under the path; `probed` are the paths looked at. -/
  | noBuildFile (under : PathName) (probed : List PathName)
  /-- The build file names no main class of the form `<package>.App` or `<package>.main`. -/
  | unexpectedMainClass
  deriving DecidableEq, Repr

namespace MigrationError

/-- The one-line wording of a failure. -/
def message : MigrationError → String
  | invalidVersion given =>
    "Invalid scala version string given: " ++ Text.quote given ++ " (expected e.g. 3.3.1)"
  | negativeHeaderLines count =>
    "Header line count must not be negative, got " ++ toString count
  | noBuildFile under probed =>
    "No Gradle build file found under " ++ under.toString ++ " (looked for " ++
      ", ".intercalate (probed.map PathName.toString) ++ ")"
  | unexpectedMainClass =>
    "In gradle build file's 'application' section, 'mainClass' is an unexpected value. " ++
      "Expected something like: mainClass = \"<package>.App\""

end MigrationError

end BuildMigration
