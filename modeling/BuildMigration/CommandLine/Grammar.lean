import BuildMigration.Text.Digit
import BuildMigration.Text.Quoted
/-!
# The command-line grammar

The command line takes two positional arguments, the project and the version, and three
options: `-h`/`--help`, `--dry-run`/`-n` (no value) and `--header-lines` (one value). Each
argument is first *read* on its own:

* an argument that does not start with `-`, the empty argument and `-` alone are
  positional;
* the first `--` separates: every argument after it is positional;
* an option string is an option; so is `name=value` for an option string `name`;
* a long argument (`--…`) may abbreviate an option string, with `=value` after it; a short
  one (`-x…`) is an option string of two characters with the rest attached as its value;
  if more than one option string fits, the argument is ambiguous, which is an error;
* an argument that looks like a negative number (`-5`, `-.5`, `-1.25`, perhaps followed by
  one line feed) or that holds a space is positional;
* any other argument starting with `-` is an unknown option.

Option strings are tried in the order `-h`, `--help`, `--dry-run`, `-n`, `--header-lines`,
which is also the order in which an ambiguous argument lists them.

* `read_plain`: an argument that does not start with `-` is positional.
-/

namespace BuildMigration.CommandLine

/-- An option of the command line. -/
inductive Flag where
  /-- Print the help text and stop. -/
  | help
  /-- Print the new files instead of writing them. -/
  | dryRun
  /-- How many header lines of the main source to keep. -/
  | headerLines
  deriving DecidableEq, Repr

/-- The option strings, in the order they are tried. -/
def optionStrings : List (String × Flag) :=
  [("-h", .help), ("--help", .help), ("--dry-run", .dryRun), ("-n", .dryRun),
    ("--header-lines", .headerLines)]

namespace Flag

/-- How messages name the option: its option strings joined with `/`. -/
def display : Flag → String
  | .help => "-h/--help"
  | .dryRun => "--dry-run/-n"
  | .headerLines => "--header-lines"

end Flag

/-- The option that an option string names. -/
def flagOf? (s : String) : Option Flag := optionStrings.lookup s

/-- Why the command line cannot be used. -/
inductive UsageError where
  /-- The argument abbreviates more than one option string. -/
  | ambiguous (arg : String) (candidates : List String)
  /-- A value was attached to an option that takes none. -/
  | ignoredValue (flag : Flag) (value : String)
  /-- The option's value is missing. -/
  | expectedValue (flag : Flag)
  /-- The number of header lines is no integer literal. -/
  | invalidInteger (value : String)
  /-- Positional arguments are missing; their names are given. -/
  | required (names : List String)
  /-- Arguments are left over. -/
  | unrecognized (args : List String)
  deriving DecidableEq, Repr

/-- The wording of a usage error. -/
def UsageError.message : UsageError → String
  | .ambiguous arg cs => "ambiguous option: " ++ arg ++ " could match " ++ ", ".intercalate cs
  | .ignoredValue f v => "argument " ++ f.display ++ ": ignored explicit argument " ++ Text.quote v
  | .expectedValue f => "argument " ++ f.display ++ ": expected one argument"
  | .invalidInteger v => "argument --header-lines: invalid int value: " ++ Text.quote v
  | .required names => "the following arguments are required: " ++ ", ".intercalate names
  | .unrecognized args => "unrecognized arguments: " ++ " ".intercalate args

/-- An argument read as an option: the option (none if unknown), the option string it was
    read as, and the value attached to it (after `=`, or right after a short option string). -/
structure OptionUse where
  /-- The option, or none for an unknown one. -/
  flag : Option Flag
  /-- The option string, or the argument itself for an unknown option. -/
  text : String
  /-- The attached value. -/
  value : Option String
  deriving DecidableEq, Repr

/-- How an argument reads. -/
inductive Reading where
  /-- A positional argument, or a value. -/
  | positional
  /-- An option. -/
  | option (use : OptionUse)
  /-- The separator `--`. -/
  | separator
  deriving DecidableEq, Repr

/-- Whether the reading is an option. -/
def Reading.isOption : Reading → Bool
  | .option _ => true
  | _ => false

/-- The text before the first `=`, and the text after it if there is one. -/
def splitAtEquals (cs : List Char) : List Char × Option (List Char) :=
  match cs.span (· != '=') with
  | (before, _ :: after) => (before, some after)
  | (before, []) => (before, none)

/-- The option strings that a long argument may abbreviate, with its attached value. -/
def longCandidates (cs : List Char) : List OptionUse :=
  let (name, value) := splitAtEquals cs
  (optionStrings.filter fun o => (String.ofList name).isPrefixOf o.1).map fun o =>
    ⟨some o.2, o.1, value.map String.ofList⟩

/-- The option strings that a short argument may stand for: the two-character option string
    at its front, with the rest attached, or an option string that it begins. -/
def shortCandidates (arg : String) : List OptionUse :=
  let front := String.ofList (arg.toList.take 2)
  let attached := String.ofList (arg.toList.drop 2)
  optionStrings.filterMap fun o =>
    if o.1 = front then some ⟨some o.2, o.1, some attached⟩
    else if arg.isPrefixOf o.1 then some ⟨some o.2, o.1, none⟩
    else none

/-- Whether the characters are decimal digits, at least one. -/
def isDigits (cs : List Char) : Bool := !cs.isEmpty && cs.all Text.isDecimalDigit

/-- Whether the characters after `-` form a number: digits, or digits, a point and digits. -/
def isUnsignedNumber (cs : List Char) : Bool :=
  isDigits cs || match splitAtPoint cs with
    | (whole, some frac) => whole.all Text.isDecimalDigit && isDigits frac
    | (_, none) => false
where
  /-- The text before the first `.`, and the text after it if there is one. -/
  splitAtPoint (cs : List Char) : List Char × Option (List Char) :=
    match cs.span (· != '.') with
    | (before, _ :: after) => (before, some after)
    | (before, []) => (before, none)

/-- Whether an argument looks like a negative number, perhaps followed by a line feed. -/
def looksNegative (cs : List Char) : Bool :=
  match cs with
  | '-' :: rest =>
    isUnsignedNumber rest || (rest.getLast? == some '\n' && isUnsignedNumber rest.dropLast)
  | _ => false

/-- How an argument before the separator reads. -/
def read (arg : String) : Except UsageError Reading :=
  match arg.toList with
  | [] => .ok .positional
  | c :: rest =>
    if c ≠ '-' then .ok .positional
    else match flagOf? arg with
      | some f => .ok (.option ⟨some f, arg, none⟩)
      | none =>
        if rest.isEmpty then .ok .positional
        else
          let (name, value) := splitAtEquals arg.toList
          match value, flagOf? (String.ofList name) with
          | some v, some f => .ok (.option ⟨some f, String.ofList name, some (String.ofList v)⟩)
          | _, _ =>
            let candidates :=
              if rest.head? == some '-' then longCandidates arg.toList else shortCandidates arg
            match candidates with
            | [u] => .ok (.option u)
            | _ :: _ :: _ => .error (.ambiguous arg (candidates.map OptionUse.text))
            | [] =>
              if looksNegative arg.toList || arg.toList.contains ' ' then .ok .positional
              else .ok (.option ⟨none, arg, none⟩)

/-- How each argument reads: the arguments after the first `--` are all positional. -/
def readAll : List String → Except UsageError (List (String × Reading))
  | [] => .ok []
  | arg :: args =>
    if arg = "--" then .ok ((arg, .separator) :: args.map fun a => (a, .positional))
    else match read arg, readAll args with
      | .error e, _ => .error e
      | .ok r, .ok rs => .ok ((arg, r) :: rs)
      | .ok _, .error e => .error e

theorem read_plain {arg : String} {c : Char} {cs : List Char} (h : arg.toList = c :: cs)
    (hc : c ≠ '-') : read arg = .ok .positional := by
  simp [read, h, hc]

end BuildMigration.CommandLine
