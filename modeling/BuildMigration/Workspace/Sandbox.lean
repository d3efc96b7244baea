import BuildMigration.Workspace.Resolve
/-!
# Workspaces and sandboxes

A *workspace* is where a migration runs: it tells whether a path names a regular file (which
fails only for a path that cannot be probed at all), reads and writes files, and takes the text
the migration prints on its two channels, the output and the error channel. The migration is
written once against these four operations; a real disk is one workspace, and a sandbox is
another.

A *sandbox* is a workspace held in memory: a file tree, and the text printed so far on each
channel. Running a migration in a sandbox is a plain function from the sandbox before to the
sandbox after, so what a run reads, writes and prints can be stated and compared.

* `emit_out`: printing on the output channel appends to the output and changes nothing else.
-/

namespace BuildMigration

/-- Where printed text goes. -/
inductive Channel where
  /-- The output channel. -/
  | out
  /-- The error channel. -/
  | err
  deriving DecidableEq, Repr

/-- The operations that a migration needs from the place where it runs. -/
class Workspace (m : Type → Type) where
  /-- Whether the path names a regular file, or why the path cannot be probed. -/
  isFile : PathName → m (Except FileFault Bool)
  /-- The bytes of the file that the path names. -/
  readFile : PathName → m (Except FileFault ByteArray)
  /-- Writes the bytes to the file that the path names. -/
  writeFile : PathName → ByteArray → m (Except FileFault Unit)
  /-- Prints the text, exactly as given, on the channel. -/
  emit : Channel → String → m Unit

/-- A file tree with the text printed on each channel. -/
structure Sandbox where
  /-- The files and directories. -/
  tree : FileTree
  /-- What was printed on the output channel. -/
  out : String := ""
  /-- What was printed on the error channel. -/
  err : String := ""

/-- Computations that run in a sandbox. -/
abbrev SandboxM := StateM Sandbox

namespace Sandbox

/-- The sandbox after printing `text` on the channel. -/
def print (s : Sandbox) : Channel → String → Sandbox
  | .out, text => { s with out := s.out ++ text }
  | .err, text => { s with err := s.err ++ text }

/-- The sandbox after writing `b` to the path, or the fault. -/
def write (s : Sandbox) (p : PathName) (b : ByteArray) : Except FileFault Sandbox :=
  match s.tree.write p b with
  | .ok t => .ok { s with tree := t }
  | .error e => .error e

end Sandbox

instance : Workspace SandboxM where
  isFile p := do return (← get).tree.isFile p
  readFile p := do return (← get).tree.read p
  writeFile p b := do
    match (← get).write p b with
    | .ok s => set s; return .ok ()
    | .error e => return .error e
  emit ch text := modify fun s => s.print ch text

theorem emit_out (s : Sandbox) (text : String) :
    ((Workspace.emit Channel.out text : SandboxM Unit).run s).2 = { s with out := s.out ++ text } :=
  rfl

end BuildMigration
