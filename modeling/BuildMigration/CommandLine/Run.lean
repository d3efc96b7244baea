import BuildMigration.CommandLine.Help
import BuildMigration.CommandLine.Parse
import BuildMigration.Migration.Run
/-!
# Running the command

The command parses its arguments and runs the migration they ask for. Its exit status is 0
when the migration succeeds or the help was asked for, 1 after an expected failure, whose
message is printed after `ERROR:` on the error channel, and 2 after a usage error. Any other
failure is not handled here: it ends the command with that failure (`Crash`).

A version left without a value is no text to validate, so the migration stops at once; a
`--header-lines` option left without a value cannot be compared with zero, so the migration
stops right after validating the version.
-/

namespace BuildMigration.CommandLine

/-- How a command ends without an exit status of its own. -/
inductive Crash where
  /-- A failure of the migration that is not an expected one. -/
  | failure (f : Failure)
  /-- The version has no value to validate. -/
  | versionWithoutValue
  /-- The number of header lines has no value to compare with zero. -/
  | headerLinesWithoutValue
  deriving DecidableEq, Repr

/-- The wording of a crash. -/
def Crash.message : Crash → String
  | .failure f => f.message
  | .versionWithoutValue => "expected string or bytes-like object, got 'list'"
  | .headerLinesWithoutValue => "'<' not supported between instances of 'list' and 'int'"

variable {m : Type → Type} [Monad m] [Workspace m]

/-- Reports an expected failure: its message after `ERROR:`, and exit status 1. -/
def reportExpected (e : MigrationError) : m (Except Crash Nat) := do
  Workspace.emit Channel.err ("ERROR: " ++ e.message ++ "\n")
  return .ok 1

/-- Runs the command with the arguments: its exit status, or the crash that ends it. -/
def runCommand (argv : List String) : m (Except Crash Nat) := do
  match parse argv with
  | .error .help =>
    Workspace.emit Channel.out helpText
    return .ok 0
  | .error (.usage e) =>
    Workspace.emit Channel.err (usageErrorText e)
    return .ok 2
  | .ok ⟨_, none, _, _⟩ => return .error .versionWithoutValue
  | .ok ⟨project, some version, dryRun, headerLines⟩ =>
    match headerLines with
    | .count n =>
      let request : Request := ⟨project, version, dryRun, n⟩
      match ← (Migration.run request : ExceptT Failure m Report).run with
      | .ok _ => return .ok 0
      | .error (.expected e) => reportExpected e
      | .error f => return .error (.failure f)
    | .none =>
      match Version.validate version with
      | .error e => reportExpected e
      | .ok _ => return .error .headerLinesWithoutValue

end BuildMigration.CommandLine
