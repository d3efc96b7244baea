import BuildMigration.Path
/-!
# File trees

A *file tree* is the part of a disk that a migration can see: regular files, each with its
bytes, and directories, below one root directory (the working directory). A file is named by
its *canonical path*, the list of names from the root down to it. The directories are the
root, the directories given, and every directory that holds a file or a directory.

The working directory lies on a *host*, the system around it, whose paths from its root are
reached by anchored path names and by going up from the working directory. Of the host, a tree
knows what stands at each of its paths, where its links lead, and where the working directory
lies; every theorem over trees holds for every host. A process sees two links on any Linux
host, `/proc/self/cwd` to the working directory and `/proc/self/root` to the root; `Host.bare`
is the host with nothing else.

Putting bytes at a canonical path replaces the bytes of the file there, or adds the file; it
changes nothing else. How a path name is resolved against a tree, and what reading and writing
through a path name do, is the matter of `BuildMigration.Workspace.Resolve`.

* `get?_put_self`: after a put the path names a file with the bytes put.
* `lookup_putFile_of_ne`: a put leaves every other file as it was.
-/

namespace BuildMigration

/-- What a canonical path names. -/
inductive Entry where
  /-- A regular file with its bytes. -/
  | file (bytes : ByteArray)
  /-- A directory. -/
  | directory
  /-- A special file, such as a device: neither a regular file nor a directory. A read of it
      gives the bytes here, whatever was written to it. -/
  | special (reads : ByteArray)

/-- Where a link of the host leads. -/
inductive Target where
  /-- To the working directory. -/
  | workingDirectory
  /-- To the host's root. -/
  | root
  deriving DecidableEq, Repr

/-- The host around the working directory. -/
structure Host where
  /-- What stands at a path from the host's root. The working directory, what lies below it
      and the links are not looked up here. -/
  entry : List String → Option Entry
  /-- Where the link at a path from the host's root leads, if a link stands there. -/
  link : List String → Option Target
  /-- The path of the working directory from the host's root. -/
  workingDirectory : List String

namespace Host

/-- The host after the file at `ps` got the bytes `b`. -/
def put (h : Host) (ps : List String) (b : ByteArray) : Host :=
  { h with entry := fun qs => if qs = ps then some (.file b) else h.entry qs }

/-- The host with only what a process always finds: the root, the working directory
    `/tmp/work`, and `/proc/self` with its links to the working directory and to the root. -/
def bare : Host where
  entry
    | [] | ["tmp"] | ["proc"] | ["proc", "self"] => some .directory
    | _ => none
  link
    | ["proc", "self", "cwd"] => some .workingDirectory
    | ["proc", "self", "root"] => some .root
    | _ => none
  workingDirectory := ["tmp", "work"]

end Host

/-- The files and directories below the root, and the host around it. -/
structure FileTree where
  /-- The regular files, by canonical path, each path once. -/
  files : List (List String × ByteArray)
  /-- Directories given explicitly, by canonical path; the root and the directories that
      hold something need not be listed. -/
  dirs : List (List String)
  /-- The host around the root. -/
  host : Host

namespace FileTree

/-- The tree with nothing in it, on the host. -/
def empty (h : Host) : FileTree := ⟨[], [], h⟩

/-- Whether `p` is a prefix of `q` with fewer names. -/
def isProperPrefix (p q : List String) : Bool := p.length < q.length && p.isPrefixOf q

/-- Whether the canonical path is a directory of the tree. -/
def isDirectory (t : FileTree) (ps : List String) : Bool :=
  ps.isEmpty || t.files.any (fun f => isProperPrefix ps f.1) || t.dirs.any (ps.isPrefixOf ·)

/-- What the canonical path names: a file comes before a directory of the same name. -/
def get? (t : FileTree) (ps : List String) : Option Entry :=
  match t.files.lookup ps with
  | some b => some (.file b)
  | none => if t.isDirectory ps then some .directory else none

/-- The files with the bytes at `ps` set to `b`: replaced if the file is there, added at the
    end if not. -/
def putFile (files : List (List String × ByteArray)) (ps : List String) (b : ByteArray) :
    List (List String × ByteArray) :=
  match files with
  | [] => [(ps, b)]
  | f :: fs => if f.1 = ps then (ps, b) :: fs else f :: putFile fs ps b

/-- The tree with the file at `ps` holding `b`. -/
def put (t : FileTree) (ps : List String) (b : ByteArray) : FileTree :=
  { t with files := putFile t.files ps b }

/-- The tree on the host with the file at the host path `ps` holding `b`. -/
def putHost (t : FileTree) (ps : List String) (b : ByteArray) : FileTree :=
  { t with host := t.host.put ps b }

/-- The tree on the host laid out from files, each given by its path text and bytes, and
    directories, by their path texts; a later file of the same path replaces an earlier one. -/
def ofLayout (h : Host) (files : List (String × ByteArray)) (dirs : List String) : FileTree :=
  let withFiles := files.foldl (fun t f => t.put (PathName.ofString f.1).parts f.2) (empty h)
  { withFiles with dirs := dirs.map fun d => (PathName.ofString d).parts }

/-- The text of a canonical path, names joined with `/`. -/
def pathText (ps : List String) : String := "/".intercalate ps

/-- Whether one path text sorts before or with another. -/
def sortsBefore (a b : String) : Bool := decide (a < b) || a == b

/-- The files with their path texts, sorted by path. -/
def listing (t : FileTree) : List (String × ByteArray) :=
  (t.files.map fun f => (pathText f.1, f.2)).mergeSort fun a b => sortsBefore a.1 b.1

/-- Every directory of the tree other than the root, possibly more than once. -/
def allDirectories (t : FileTree) : List (List String) :=
  let prefixes (ps : List String) : List (List String) :=
    (List.range ps.length).map fun n => ps.take (n + 1)
  (t.dirs.flatMap prefixes) ++ (t.files.flatMap fun f => (prefixes f.1).dropLast)

/-- Whether the directory holds nothing. -/
def isEmptyDirectory (t : FileTree) (ps : List String) : Bool :=
  !(t.files.any fun f => isProperPrefix ps f.1) && !(t.dirs.any fun d => isProperPrefix ps d)

/-- The path texts of the directories that hold nothing, sorted. -/
def emptyDirectories (t : FileTree) : List String :=
  ((t.allDirectories.filter t.isEmptyDirectory).map pathText).eraseDups.mergeSort sortsBefore

theorem lookup_putFile_self (files : List (List String × ByteArray)) (ps : List String)
    (b : ByteArray) : (putFile files ps b).lookup ps = some b := by
  induction files with
  | nil => simp [putFile]
  | cons f fs ih =>
    obtain ⟨qs, b'⟩ := f
    by_cases hq : qs = ps
    · simp [putFile, hq]
    · have hne : (ps == qs) = false := beq_eq_false_iff_ne.2 (Ne.symm hq)
      simp [putFile, hq, List.lookup_cons, hne, ih]

theorem lookup_putFile_of_ne (files : List (List String × ByteArray)) {ps qs : List String}
    (b : ByteArray) (h : qs ≠ ps) : (putFile files ps b).lookup qs = files.lookup qs := by
  have h1 : (qs == ps) = false := beq_eq_false_iff_ne.2 h
  induction files with
  | nil => simp [putFile, List.lookup_cons, h1]
  | cons f fs ih =>
    obtain ⟨rs, b'⟩ := f
    by_cases hr : rs = ps
    · subst hr
      simp [putFile, List.lookup_cons, h1]
    · simp only [putFile, hr, if_false, List.lookup_cons]
      cases qs == rs <;> simp [ih]

/-- Putting back the bytes a file holds leaves the files as they are. -/
theorem putFile_of_lookup {files : List (List String × ByteArray)} {ps : List String}
    {b : ByteArray} (h : files.lookup ps = some b) : putFile files ps b = files := by
  induction files with
  | nil => cases h
  | cons f fs ih =>
    obtain ⟨qs, b'⟩ := f
    by_cases hq : qs = ps
    · subst hq
      simp only [List.lookup_cons_self, Option.some.injEq] at h
      simp [putFile, h]
    · have hne : (ps == qs) = false := beq_eq_false_iff_ne.2 (Ne.symm hq)
      simp only [List.lookup_cons, hne] at h
      simp [putFile, hq, ih h]

@[simp] theorem host_put (t : FileTree) (ps : List String) (b : ByteArray) :
    (t.put ps b).host = t.host :=
  rfl

theorem get?_put_self (t : FileTree) (ps : List String) (b : ByteArray) :
    (t.put ps b).get? ps = some (.file b) := by
  simp [get?, put, lookup_putFile_self]

/-- Writing to a file the bytes it holds changes nothing. -/
theorem put_of_get? {t : FileTree} {ps : List String} {b : ByteArray}
    (h : t.get? ps = some (.file b)) : t.put ps b = t := by
  simp only [get?] at h
  split at h
  · rename_i b' hb
    cases h
    simp [put, putFile_of_lookup hb]
  · split at h <;> cases h

end FileTree

end BuildMigration
