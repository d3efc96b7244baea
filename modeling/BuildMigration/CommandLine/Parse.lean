import BuildMigration.CommandLine.Grammar
import BuildMigration.Path
import BuildMigration.Text.Integer
/-!
# Parsing the command line

After every argument is read, the arguments are taken from left to right. Positional
arguments go to the project and then the version: each takes one positional argument, and a
`--` separator next to it goes with it and is dropped. An option takes its value, attached
(`--header-lines=3`) or as the next argument, which must then be positional. A short option
without a value may have further short options attached (`-nh`, also `-n=h`): the first
attached character names the next option, `-` and that character, and the characters after
it are attached to that option in turn. If they do not name an option, the attached text is
a value that the option ignores, which is an error. Arguments that nothing takes are left
over.

The options act in the order they are given: `-h` stops the parse with the help text, and a
value of `--header-lines` that is no integer literal stops it with an error. Once all
arguments are taken, a missing positional argument is an error, and then a left-over
argument is one.

The arguments that an argument takes drop their first `--`. For an option this is its value
`--` (`--header-lines=--`), which leaves the option with no value at all (`HeaderCount.none`).
For a positional argument it is the separator or a positional `--` after it, so a group that
is a lone positional `--` leaves its argument without a value. Only the version can be left
so: a positional `--` comes after the separator, and while the project is still wanted the
separator falls into the project's group and is the `--` that it drops.
-/

namespace BuildMigration.CommandLine

/-- The number of header lines that the command line asks for. -/
inductive HeaderCount where
  /-- A number. -/
  | count (n : Int)
  /-- No value: the option was given the value `--` only. -/
  | none
  deriving DecidableEq, Repr

/-- What the command line asks for. -/
structure Options where
  /-- The project's root directory or its build file. -/
  project : PathName
  /-- The target version; none when its only argument was a dropped `--`. -/
  version : Option String
  /-- Whether to print the new files instead of writing them. -/
  dryRun : Bool
  /-- How many header lines to keep. -/
  headerLines : HeaderCount
  deriving DecidableEq, Repr

/-- Why a parse stops early: the help was asked for, or the command line is wrong. -/
inductive Halt where
  | help
  | usage (e : UsageError)
  deriving DecidableEq, Repr

/-- What the arguments taken so far give. -/
structure Taken where
  /-- The values of the positional arguments taken so far, in order; a value is none when its
      only argument was a `--` after the separator, which is dropped. -/
  positionals : List (Option String) := []
  /-- Whether `--dry-run` was given. -/
  dryRun : Bool := false
  /-- The number of header lines. -/
  headerLines : HeaderCount := .count 5
  /-- The arguments left over, in order. -/
  extras : List String := []
  deriving Repr

/-- How many positional arguments are still wanted. -/
def Taken.wanted (t : Taken) : Nat := 2 - t.positionals.length

/-- The number of arguments that one positional argument takes from the front: separators,
    one positional argument, separators. -/
def groupLength (rs : List Reading) : Option Nat :=
  let lead := (rs.takeWhile (· == .separator)).length
  match rs.drop lead with
  | .positional :: more => some (lead + 1 + (more.takeWhile (· == .separator)).length)
  | _ => none

/-- The lengths of the groups of `n` positional arguments at the front, if there are `n`. -/
def groupLengths : Nat → List Reading → Option (List Nat)
  | 0, _ => some []
  | n + 1, rs =>
    match groupLength rs with
    | some k => (groupLengths n (rs.drop k)).map (k :: ·)
    | none => none

/-- The lengths of the groups taken: as many of the wanted positional arguments as fit. -/
def takenLengths : Nat → List Reading → List Nat
  | 0, _ => []
  | n + 1, rs =>
    match groupLengths (n + 1) rs with
    | some ks => ks
    | none => takenLengths n rs

/-- The value of a group of arguments: the group without its first `--`, which leaves one
    argument or none. -/
def groupValue (group : List String) : Option String := (group.erase "--").head?

/-- Takes positional arguments from the front: the new state and how many arguments went. -/
def takePositionals (args : List (String × Reading)) (t : Taken) : Taken × Nat :=
  let ks := takenLengths t.wanted (args.map (·.2))
  let (values, _) := ks.foldl
    (fun (acc : List (Option String) × List (String × Reading)) k =>
      (acc.1 ++ [groupValue ((acc.2.take k).map (·.1))], acc.2.drop k)) ([], args)
  ({ t with positionals := t.positionals ++ values }, ks.foldl (· + ·) 0)

/-- What an option asks for, with its value when it takes one. -/
inductive Action where
  /-- Print the help text and stop. -/
  | help
  /-- Print the new files instead of writing them. -/
  | dryRun
  /-- Keep as many header lines as the value says. -/
  | headerLines (value : String)
  deriving DecidableEq, Repr

/-- What an option that takes no value asks for; none for `--header-lines`, the one option
    that takes a value. -/
def Flag.switch? : Flag → Option Action
  | .help => some .help
  | .dryRun => some .dryRun
  | .headerLines => none

/-- The size of an attached value, which bounds how many short options can follow. -/
def attachedSize : Option (List Char) → Nat
  | none => 0
  | some cs => cs.length + 1

/-- What the options of one argument do, in order, and how many of the following arguments
    they take. The attached value `value` is shortened at each step, which bounds the chain of
    short options. -/
def actionsOf (next : List (String × Reading)) (f : Flag) (text : String) :
    (value : Option (List Char)) → Except UsageError (List Action × Nat)
  | none =>
    match f.switch? with
    | some a => .ok ([a], 0)
    | none =>
      match next with
      | (v, .positional) :: _ => .ok ([.headerLines v], 1)
      | _ => .error (.expectedValue f)
  | some attached =>
    match f.switch? with
    | none => .ok ([.headerLines (String.ofList attached)], 0)
    | some a =>
      if text.toList[1]? == some '-' then .error (.ignoredValue f (String.ofList attached))
      else match attached with
        | [] => .error (.ignoredValue f "")
        | c :: more =>
          let short := String.ofList ['-', c]
          match flagOf? short with
          | some g =>
            let step := match more with
              | [] => actionsOf next g short none
              | d :: ds => actionsOf next g short (some (d :: ds))
            match step with
            | .ok (acts, k) => .ok (a :: acts, k)
            | .error e => .error e
          | none => .error (.ignoredValue f (String.ofList attached))
termination_by value => attachedSize value
decreasing_by
  all_goals simp only [attachedSize, List.length_cons]
  all_goals omega

/-- Carries out the options, in order. -/
def act (t : Taken) : List Action → Except Halt Taken
  | [] => .ok t
  | .help :: _ => .error .help
  | .dryRun :: rest => act { t with dryRun := true } rest
  | .headerLines v :: rest =>
    if v = "--" then act { t with headerLines := .none } rest
    else match Text.readInteger? v.toList with
      | some n => act { t with headerLines := .count n } rest
      | none => .error (.usage (.invalidInteger v))

/-- Takes an option and what it needs from the following arguments: the new state and how
    many of the following arguments went. -/
def takeOption (use : OptionUse) (next : List (String × Reading)) (t : Taken) :
    Except Halt (Taken × Nat) :=
  match use.flag with
  | none => .ok ({ t with extras := t.extras ++ [use.text] }, 0)
  | some f =>
    match actionsOf next f use.text (use.value.map String.toList) with
    | .error e => .error (.usage e)
    | .ok (acts, k) =>
      match act t acts with
      | .ok t' => .ok (t', k)
      | .error h => .error h

/-- Takes all arguments from left to right. -/
def takeAll (args : List (String × Reading)) (t : Taken) : Except Halt Taken :=
  if args.any (·.2.isOption) then
    match args with
    | [] => .ok t
    | (_, .option use) :: rest =>
      match takeOption use rest t with
      | .error h => .error h
      | .ok (t', k) => takeAll (rest.drop k) t'
    | (arg, _) :: rest =>
      match takePositionals args t with
      | (t', n + 1) => takeAll (rest.drop n) t'
      | (_, 0) => takeAll rest { t with extras := t.extras ++ [arg] }
  else
    let (t', n) := takePositionals args t
    .ok { t' with extras := t'.extras ++ (args.drop n).map (·.1) }
termination_by args.length
decreasing_by
  all_goals simp only [List.length_drop, List.length_cons]
  all_goals omega

/-- The options that the arguments give, or why they give none. -/
def parse (argv : List String) : Except Halt Options :=
  match readAll argv with
  | .error e => .error (.usage e)
  | .ok args =>
    match takeAll args {} with
    | .error h => .error h
    | .ok t =>
      match t.positionals with
      | [p, v] =>
        -- the project's group always holds a positional argument besides any `--`
        if t.extras.isEmpty then
          .ok ⟨PathName.ofString (p.getD ""), v, t.dryRun, t.headerLines⟩
        else .error (.usage (.unrecognized t.extras))
      | [_] => .error (.usage (.required ["version"]))
      | _ => .error (.usage (.required ["project", "version"]))

end BuildMigration.CommandLine
