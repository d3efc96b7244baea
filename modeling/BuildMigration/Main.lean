import BuildMigration.CommandLine.Run
/-!
# The command on a real disk

The command runs in the current directory of the process: paths are handed to the operating
system as they are written, the output channel is standard output and the error channel is
standard error. A regular file is one whose bytes can be read; the system's error number
tells a missing file, a file on the way, a directory and a name that is too long apart. A path
with U+0000 in a name is refused before the system is asked.
-/

namespace BuildMigration

/-- The error number that the system gave for a failed file operation, if it gave one. -/
def systemCode : IO.Error → Option UInt32
  | .noFileOrDirectory _ code _ => some code
  | .inappropriateType _ code _ => some code
  | .noSuchThing _ code _ => some code
  | .otherError code _ => some code
  | .invalidArgument _ code _ => some code
  | .permissionDenied _ code _ => some code
  | _ => none

/-- The fault that a failed file operation on the path stands for. -/
def faultOfError (p : PathName) (e : IO.Error) : FileFault :=
  match systemCode e with
  | some 20 => .notADirectory p
  | some 21 => .isADirectory p
  | some 36 => .nameTooLong p
  | _ => .notFound p

instance : Workspace IO where
  isFile p := do
    if p.holdsNul then return .ok false
    try
      let _ ← IO.FS.readBinFile p.toString
      return .ok true
    catch e =>
      match systemCode e with
      | some 36 => return .error (.nameTooLong p)
      | _ => return .ok false
  readFile p := do
    if p.holdsNul then return .error (.nulInName p)
    try return .ok (← IO.FS.readBinFile p.toString)
    catch e => return .error (faultOfError p e)
  writeFile p b := do
    if p.holdsNul then return .error (.nulInName p)
    try
      IO.FS.writeBinFile p.toString b
      return .ok ()
    catch e => return .error (faultOfError p e)
  emit ch text := do
    let stream ← match ch with
      | .out => IO.getStdout
      | .err => IO.getStderr
    stream.putStr text
    stream.flush

end BuildMigration

/-- Runs the command with the process's arguments and exits with its status; a crash is
    reported on standard error with status 1. -/
def main (args : List String) : IO UInt32 := do
  match ← (BuildMigration.CommandLine.runCommand args : IO _) with
  | .ok code => return code.toUInt32
  | .error c =>
    IO.eprintln c.message
    return 1
