import BuildMigration.CommandLine.Grammar
/-!
# Help and usage texts

The command is called `scala3-migrate`. Its usage line lists the options and then the
positional arguments, wrapped to fit eighty columns with the continuation under the first
option. The help text is the usage, the description, and a table of the positional arguments
and the options. A usage error prints the usage and then one line naming the command and the
error, on the error channel.
-/

namespace BuildMigration.CommandLine

/-- The name of the command. -/
def programName : String := "scala3-migrate"

/-- The usage lines. -/
def usage : String :=
  "usage: scala3-migrate [-h] [--dry-run] [--header-lines HEADER_LINES]\n" ++
    "                      project version\n"

/-- The help text. -/
def helpText : String :=
  usage ++ "\n" ++
    "Migrate a Gradle Scala 2 project (from `gradle init`) to Scala 3\n" ++
    "\n" ++
    "positional arguments:\n" ++
    "  project               Path to the project root or its build.gradle[.kts]\n" ++
    "  version               Target Scala version (ie 3.1.0)\n" ++
    "\n" ++
    "options:\n" ++
    "  -h, --help            show this help message and exit\n" ++
    "  --dry-run, -n         Print output without writing files\n" ++
    "  --header-lines HEADER_LINES\n" ++
    "                        Leading lines of App.scala to keep (default: 5)\n"

/-- What a usage error prints on the error channel. -/
def usageErrorText (e : UsageError) : String :=
  usage ++ programName ++ ": error: " ++ e.message ++ "\n"

end BuildMigration.CommandLine
