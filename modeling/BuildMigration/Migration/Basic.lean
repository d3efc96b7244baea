import BuildMigration.Project.Locate
import BuildMigration.Template
import BuildMigration.Text.Utf8
import BuildMigration.Workspace.Resolve
/-!
# Migration requests, reports and failures

A *request* names the project (its root or its build file), the target version, whether to
run dry (print the new files instead of writing them), and how many header lines of the main
source to keep. A successful run answers with a *report*: the build file, the version, the
package of the main class, the main source (for an application) and the leftovers that the
rewrite reported. A run that stops answers with a *failure*: an expected one, a file that
cannot be read or written, bytes that are not UTF-8, or a faulty replacement template.
-/

namespace BuildMigration

/-- What to migrate, and how. -/
structure Request where
  /-- The project's root directory or its build file. -/
  project : PathName
  /-- The target Scala version. -/
  version : String
  /-- Whether to print the new files instead of writing them. -/
  dryRun : Bool := false
  /-- How many leading lines of the main source to keep. -/
  headerLines : Int := 5
  deriving Repr

/-- What a migration did, or in a dry run would do. -/
structure Report where
  /-- The build file that was rewritten. -/
  buildFile : BuildFile
  /-- The target version. -/
  version : String
  /-- The package of the main class; empty for a library. -/
  packagePath : List String
  /-- The main source that was rewritten; none for a library. -/
  mainFile : Option PathName
  /-- What the rewrite left in the build file, as reported. -/
  warnings : List String
  deriving DecidableEq, Repr

/-- Why a migration stopped. -/
inductive Failure where
  /-- An expected failure, reported to the user in one line. -/
  | expected (e : MigrationError)
  /-- A file could not be read or written. -/
  | file (f : FileFault)
  /-- A file is not UTF-8. -/
  | decode (f : Text.DecodeFault)
  /-- A replacement template is faulty. -/
  | template (f : TemplateFault)
  deriving DecidableEq, Repr

/-- The wording of a failure. -/
def Failure.message : Failure → String
  | .expected e => e.message
  | .file f => f.message
  | .decode f => f.message
  | .template f => f.message

end BuildMigration
