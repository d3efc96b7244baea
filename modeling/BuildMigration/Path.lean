import BuildMigration.Text.Split
/-!
# Path names

A *path name* is a file-system path as this library reads it: an anchor (none, the root
`/`, or the root written `//`) and the list of its parts, the names between slashes. Reading
a text drops empty parts and `.` parts, so repeated and trailing slashes vanish, while `..`
is kept as a part. Exactly two leading slashes give the anchor `//`; one, or three and
more, give `/`. A path is written back as its anchor followed by its parts joined with `/`,
and a relative path without parts is written `.`.

Joining a text onto a path appends the text's parts, unless the text is anchored: then it
replaces the path. The parent of a path drops its last part; a path without parts is its own
parent.

* `parts_ofString`: the parts of a read path are the nonempty, non-`.` pieces between
  slashes.
* `parts_join_relative`: joining a relative text appends its parts.
-/

namespace BuildMigration

/-- Where a path starts: relative to the current directory, at the root `/`, or at the root
    written `//`. -/
inductive Anchor where
  | relative
  | root
  | doubleRoot
  deriving DecidableEq, Repr

/-- A path: where it starts and the names of its parts. -/
structure PathName where
  /-- Where the path starts. -/
  anchor : Anchor
  /-- The names between the slashes, in order. -/
  parts : List String
  deriving DecidableEq, Repr

namespace PathName

/-- The anchor that a path text starts with, from the number of its leading slashes. -/
def anchorOf (cs : List Char) : Anchor :=
  match (cs.takeWhile (· = '/')).length with
  | 0 => .relative
  | 2 => .doubleRoot
  | _ => .root

/-- Whether a piece between slashes names a part: it is neither empty nor `.`. -/
def isPart (p : List Char) : Bool := p ≠ [] && p ≠ ['.']

/-- The path that a text names. -/
def ofString (s : String) : PathName where
  anchor := anchorOf s.toList
  parts := ((Text.splitOn '/' s.toList).filter isPart).map String.ofList

/-- The current directory, `.`. -/
def here : PathName := ⟨.relative, []⟩

/-- How the anchor is written. -/
def Anchor.text : Anchor → String
  | .relative => ""
  | .root => "/"
  | .doubleRoot => "//"

/-- The text of a path: its anchor, then its parts joined with `/`; `.` for a relative path
    without parts. -/
def toString (p : PathName) : String :=
  match p.anchor, p.parts with
  | .relative, [] => "."
  | a, ps => Anchor.text a ++ "/".intercalate ps

instance : ToString PathName := ⟨PathName.toString⟩

/-- The path without its last part; a path without parts is its own parent. -/
def parent (p : PathName) : PathName := { p with parts := p.parts.dropLast }

/-- The path with the text `s` joined on: an anchored text replaces the path, a relative one
    adds its parts. -/
def join (p : PathName) (s : String) : PathName :=
  let q := ofString s
  match q.anchor with
  | .relative => { p with parts := p.parts ++ q.parts }
  | _ => q

/-- The path with each of the texts joined on in turn. -/
def joinAll (p : PathName) (ss : List String) : PathName := ss.foldl join p

/-- Whether the path is relative. -/
def IsRelative (p : PathName) : Prop := p.anchor = .relative

instance (p : PathName) : Decidable p.IsRelative := inferInstanceAs (Decidable (_ = _))

theorem parts_ofString (s : String) :
    (ofString s).parts = ((Text.splitOn '/' s.toList).filter isPart).map String.ofList := rfl

theorem parts_join_relative {p : PathName} {s : String} (h : (ofString s).anchor = .relative) :
    (p.join s).parts = p.parts ++ (ofString s).parts := by
  simp [join, h]

end PathName

end BuildMigration
