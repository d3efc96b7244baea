import BuildMigration.Path
import BuildMigration.Text.Split
/-!
# The application's main source

An application generated by Gradle keeps its entry point in `App.scala`, under
`src/main/scala/<package>/` next to the build file. Migrating it keeps a header of the file,
its first lines, and replaces the rest with a Scala 3 `@main` method.

The header is counted in lines after every carriage return is deleted, where only a line feed
ends a line. A count `h` keeps the first `h` lines; a negative count keeps all but the last
`-h`, as a slice does; a count beyond the end keeps them all. The kept lines are joined with
line feeds and followed by a line feed and the stub.

* `stub_no_cr`: the stub holds no carriage return.
-/

namespace BuildMigration.MainSource

open Text

/-- The Scala 3 entry point that replaces the body of `App.scala`. -/
def stub : List Char := "@main def main() =\n\tprintln(\"Hello World!\")\n".toList

/-- The number of header lines kept when no count is given. -/
def defaultHeaderLines : Int := 5

/-- The lines that a count keeps: the first `h`, or all but the last `-h` when `h` is
    negative. -/
def keepLines {α : Type} (h : Int) (lines : List α) : List α :=
  if 0 ≤ h then lines.take h.toNat else lines.take (lines.length - h.natAbs)

/-- The lines of a source, after its carriage returns are deleted. -/
def lines (source : List Char) : List (List Char) := splitOn '\n' (source.filter (· != '\r'))

/-- The new source: the kept header lines, a line feed, and the stub. -/
def modernize (source : List Char) (headerLines : Int) : List Char :=
  joinWith '\n' (keepLines headerLines (lines source)) ++ '\n' :: stub

/-- Where the main source of the application with this build file and package lies. -/
def path (buildFile : PathName) (package : List String) : PathName :=
  buildFile.parent.joinAll (["src", "main", "scala"] ++ package ++ ["App.scala"])

theorem stub_no_cr : '\r' ∉ stub := by decide

end BuildMigration.MainSource
