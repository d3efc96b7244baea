import BuildMigration.Text.Quoted
import BuildMigration.Workspace.Tree
/-!
# Resolving path names

A path name is *resolved* the way the operating system does it. A relative path starts at the
root of the tree (the working directory), an anchored one at the root of the host around it.
Name by name, each name is looked up in a directory: `..` goes up one level, and a name of
more than 255 bytes is refused there. A regular or special file where a directory is needed
stops the walk, and so does a name that is not there. A path text of 4096 bytes or more is
refused before the walk starts.

The tree's host says what lies outside the tree: `..` at the root goes to the directory of the
host that holds the working directory, and the walk follows the host's links where it meets
them, back into the tree for a link to the working directory.

Reading, writing and probing report the faults that the system reports, with its error
numbers: a missing file or directory, a non-directory on the way, a directory where a file is
needed, and a name or path that is too long. A path with the character U+0000 in a name is
refused before it is resolved, and names no regular file. Writing puts the bytes into the file
that the path leads to, in the tree or on the host; a write to a special file changes no file.
-/

namespace BuildMigration

/-- A fault met when a file is read, written or probed. -/
inductive FileFault where
  /-- A file or directory on the path does not exist. -/
  | notFound (path : PathName)
  /-- A file that is no directory stands where a directory is needed on the path. -/
  | notADirectory (path : PathName)
  /-- The path names a directory where a file is needed. -/
  | isADirectory (path : PathName)
  /-- A name on the path has more than 255 bytes, or the whole path 4096 or more. -/
  | nameTooLong (path : PathName)
  /-- A name on the path holds U+0000, so the path cannot be handed to the system. -/
  | nulInName (path : PathName)
  deriving DecidableEq, Repr

namespace FileFault

/-- The wording of a fault, with the system's error number. -/
def message : FileFault → String
  | notFound p => "[Errno 2] No such file or directory: " ++ Text.quote p.toString
  | notADirectory p => "[Errno 20] Not a directory: " ++ Text.quote p.toString
  | isADirectory p => "[Errno 21] Is a directory: " ++ Text.quote p.toString
  | nameTooLong p => "[Errno 36] File name too long: " ++ Text.quote p.toString
  | nulInName _ => "embedded null byte"

end FileFault

/-- Whether a name on the path holds the character U+0000. -/
def PathName.holdsNul (p : PathName) : Bool := p.parts.any fun x => x.contains (Char.ofNat 0)

/-- The most bytes that one name on a path may have. -/
def maxNameBytes : Nat := 255

/-- The most bytes that the text of a path may have. -/
def maxPathBytes : Nat := 4095

/-- Where a walk through a path name stands. -/
inductive Place where
  /-- In the tree, at this canonical path. -/
  | tree (parts : List String)
  /-- On the host, at this path from its root. -/
  | host (parts : List String)
  deriving DecidableEq, Repr

namespace Place

/-- The place one level up on the host `h`: the tree's root lies in the directory of the host
    that holds the working directory, and the host's root is its own parent. -/
def parent (h : Host) : Place → Place
  | .tree [] => .host h.workingDirectory.dropLast
  | .tree ps => .tree ps.dropLast
  | .host ps => .host ps.dropLast

/-- The place of the name `x` in the directory at this place on the host `h`: the working
    directory is the tree's root, and a link leads where it points. -/
def child (h : Host) (x : String) : Place → Place
  | .tree ps => .tree (ps ++ [x])
  | .host ps =>
    if ps ++ [x] = h.workingDirectory then .tree []
    else match h.link (ps ++ [x]) with
      | some .workingDirectory => .tree []
      | some .root => .host []
      | none => .host (ps ++ [x])

end Place

/-- Where a path name leads. -/
inductive Resolution where
  /-- To a place whose directory exists, with what stands there, if anything. -/
  | reached (place : Place) (entry : Option Entry)
  /-- Nowhere: a directory on the way does not exist. -/
  | missing
  /-- Nowhere: a file that is no directory stands on the way. -/
  | blocked
  /-- Nowhere: a name, or the whole path, is too long. -/
  | tooLong

namespace FileTree

/-- What stands at a place. -/
def entryAt (t : FileTree) : Place → Option Entry
  | .tree ps => t.get? ps
  | .host ps => t.host.entry ps

/-- Resolves the names `xs` from the place `here`. -/
def walk (t : FileTree) (here : Place) : List String → Resolution
  | [] => .reached here (t.entryAt here)
  | x :: xs =>
    match t.entryAt here with
    | some .directory =>
      if x = ".." then t.walk (here.parent t.host) xs
      else if maxNameBytes < x.utf8ByteSize then .tooLong
      else t.walk (here.child t.host x) xs
    | some _ => .blocked
    | none => .missing

/-- Where a path name leads. -/
def resolve (t : FileTree) (p : PathName) : Resolution :=
  if maxPathBytes < p.toString.utf8ByteSize then .tooLong
  else match p.anchor with
    | .relative => t.walk (.tree []) p.parts
    | _ => t.walk (.host []) p.parts

/-- Whether the path names a regular file; a path that is too long cannot be probed. -/
def isFile (t : FileTree) (p : PathName) : Except FileFault Bool :=
  if p.holdsNul then .ok false else
  match t.resolve p with
  | .reached _ (some (.file _)) => .ok true
  | .tooLong => .error (.nameTooLong p)
  | _ => .ok false

/-- The bytes read from the file that the path names. -/
def read (t : FileTree) (p : PathName) : Except FileFault ByteArray :=
  if p.holdsNul then .error (.nulInName p) else
  match t.resolve p with
  | .reached _ (some (.file b)) => .ok b
  | .reached _ (some (.special b)) => .ok b
  | .reached _ (some .directory) => .error (.isADirectory p)
  | .reached _ none => .error (.notFound p)
  | .missing => .error (.notFound p)
  | .blocked => .error (.notADirectory p)
  | .tooLong => .error (.nameTooLong p)

/-- The tree after writing `b` to the file that the path names. -/
def write (t : FileTree) (p : PathName) (b : ByteArray) : Except FileFault FileTree :=
  if p.holdsNul then .error (.nulInName p) else
  match t.resolve p with
  | .reached _ (some .directory) => .error (.isADirectory p)
  | .reached (.tree ps) _ => .ok (t.put ps b)
  | .reached (.host _) (some (.special _)) => .ok t
  | .reached (.host ps) _ => .ok (t.putHost ps b)
  | .missing => .error (.notFound p)
  | .blocked => .error (.notADirectory p)
  | .tooLong => .error (.nameTooLong p)

end FileTree

end BuildMigration
