import BuildMigration.BuildText.MainClass
import BuildMigration.BuildText.Rewrite
import BuildMigration.MainSource
import BuildMigration.Migration.Basic
import BuildMigration.Version
import BuildMigration.Workspace.Sandbox
/-!
# Running a migration

A migration runs its steps in a fixed order, and stops at the first failure:

1. validate the version, and refuse a negative number of header lines;
2. locate the build file (a path that cannot be probed stops the run) and read it as UTF-8;
3. for an application, find the package of its main class;
4. rewrite the build text and collect the leftovers;
5. print the new build text under a banner (dry run), or write it and print a check mark;
6. print each leftover on the error channel;
7. for a library, say that the main source is skipped; for an application, read the main
   source, rewrite it, and print or write it as in step 5;
8. unless dry, print the closing lines.

Every expected failure comes before the first write; the build file is written before the
main source is read, so a main source that cannot be read leaves the build file rewritten.
-/

namespace BuildMigration.Migration

variable {m : Type → Type} [Monad m] [Workspace m]

/-- A line of sixty `=`, which frames the title of a printed file. -/
def rule : String := String.ofList (List.replicate 60 '=')

/-- The closing lines of a real run. -/
def closing (version : String) : String :=
  "\n✅ Migration to Scala " ++ version ++ " complete!\n" ++
    "\n⚠️  Next steps:\n" ++
    "  1. Review the rewritten files and adjust as needed\n" ++
    "  2. Run: ./gradlew build\n" ++
    "  3. Fix any compilation or test issues\n"

/-- Prints the text on the channel. -/
def say (ch : Channel) (text : String) : ExceptT Failure m Unit :=
  ExceptT.lift (Workspace.emit ch text)

/-- The value of a step, or the failure that it turns into. -/
def orFail {ε α : Type} (r : Except ε α) (f : ε → Failure) : ExceptT Failure m α :=
  match r with
  | .ok a => pure a
  | .error e => throw (f e)

/-- The text of a file, read as UTF-8. -/
def fetch (path : PathName) : ExceptT Failure m String := do
  let bytes ← orFail (← ExceptT.lift (Workspace.readFile path : m _)) .file
  orFail (Text.decode bytes) .decode

/-- Shows the new text of a file (dry run), or writes it and reports it. -/
def deliver (dryRun : Bool) (path : PathName) (text : String) : ExceptT Failure m Unit := do
  if dryRun then
    say .out (rule ++ "\n" ++ path.toString ++ "\n" ++ rule ++ "\n" ++ text ++ "\n")
  else
    orFail (← ExceptT.lift (Workspace.writeFile path text.toUTF8 : m _)) .file
    say .out ("  ✓ " ++ path.toString ++ "\n")

/-- Runs a migration. -/
def run (req : Request) : ExceptT Failure m Report := do
  let version ← orFail (Version.validate req.version) .expected
  if req.headerLines < 0 then throw (.expected (.negativeHeaderLines req.headerLines))
  let probe : PathName → ExceptT FileFault m Bool := fun p => ExceptT.mk (Workspace.isFile p)
  let located ← orFail (← ExceptT.lift (BuildFile.locate probe req.project).run) .file
  let buildFile ← orFail located .expected
  let text ← fetch buildFile.path
  let package ← if buildFile.isLibrary then pure []
    else orFail (BuildText.packagePath text.toList) .expected
  let newText ← orFail (BuildText.rewrite text.toList version.toList buildFile.isLibrary) .template
  let warnings := (BuildText.leftovers newText buildFile.isLibrary).map BuildText.Leftover.message
  deliver req.dryRun buildFile.path (String.ofList newText)
  for w in warnings do
    say .err ("WARNING: " ++ buildFile.path.toString ++ ": " ++ w ++ "\n")
  let mainFile ← if buildFile.isLibrary then do
      say .out
        ("\nLibrary module detected (" ++ buildFile.path.toString ++ "), skipping main file\n")
      pure none
    else do
      let path := MainSource.path buildFile.path package
      let source ← fetch path
      deliver req.dryRun path (String.ofList (MainSource.modernize source.toList req.headerLines))
      pure (some path)
  unless req.dryRun do say .out (closing version)
  return { buildFile, version, packagePath := package, mainFile, warnings }

end BuildMigration.Migration
