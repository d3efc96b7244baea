import BuildMigration.Error
/-!
# Locating the build file

A Gradle project made by `gradle init` has its build file in a module directory: `app` for an
application, `lib` for a library, in the Groovy (`build.gradle`) or the Kotlin
(`build.gradle.kts`) dialect. The path the user gives is either that build file itself, taken
as an application's, or the project's root, under which the four *candidates* are probed in
the order app Groovy, app Kotlin, lib Groovy, lib Kotlin. Only regular files count.

Locating is written for any way of telling whether a path is a regular file, so that it runs
on a real disk as well as on a model of one.

* `locate_of_isFile`: a path that is a regular file is its own build file.
-/

namespace BuildMigration

/-- A build file: where it is, and whether it belongs to a library (which has no entry
    point). -/
structure BuildFile where
  /-- The path of the build file. -/
  path : PathName
  /-- Whether the module is a library. -/
  isLibrary : Bool
  deriving DecidableEq, Repr

namespace BuildFile

/-- The build files that a project root may have, in the order they are probed. -/
def candidates (root : PathName) : List BuildFile :=
  [⟨root.joinAll ["app", "build.gradle"], false⟩, ⟨root.joinAll ["app", "build.gradle.kts"], false⟩,
    ⟨root.joinAll ["lib", "build.gradle"], true⟩, ⟨root.joinAll ["lib", "build.gradle.kts"], true⟩]

/-- The first of the build files that is a regular file. -/
def firstFile {m : Type → Type} [Monad m] (isFile : PathName → m Bool) :
    List BuildFile → m (Option BuildFile)
  | [] => pure none
  | b :: bs => do
    if ← isFile b.path then pure (some b) else firstFile isFile bs

/-- The build file for a path: the path itself if it is a regular file, else the first
    candidate under it that is one. -/
def locate {m : Type → Type} [Monad m] (isFile : PathName → m Bool) (path : PathName) :
    m (Except MigrationError BuildFile) := do
  if ← isFile path then return .ok ⟨path, false⟩
  match ← firstFile isFile (candidates path) with
  | some b => return .ok b
  | none => return .error (.noBuildFile path ((candidates path).map BuildFile.path))

theorem locate_of_isFile {m : Type → Type} [Monad m] [LawfulMonad m]
    {isFile : PathName → m Bool} {path : PathName} (h : isFile path = pure true) :
    locate isFile path = pure (.ok ⟨path, false⟩) := by
  simp [locate, h]

end BuildFile

end BuildMigration
