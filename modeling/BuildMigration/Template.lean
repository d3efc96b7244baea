import BuildMigration.Text.Identifier
import BuildMigration.Text.Integer
import BuildMigration.Text.Quoted
/-!
# Replacement templates

A *replacement template* says what stands in for a match when a pattern is replaced: plain
characters, and references to the groups of the match. A backslash starts an escape:

* `\g<n>` refers to group `n`, where `n` is an integer literal (so `\g< 1>` and `\g<١>` are
  group 1), and `\g<name>` to a group by name;
* `\1` to `\99` refer to a group by number, but three octal digits such as `\101` are the
  character of that code, at most `\377`;
* `\0` with up to two more octal digits is the character of that code;
* `\a`, `\b`, `\f`, `\n`, `\r`, `\t`, `\v` and `\\` are the usual control characters and the
  backslash;
* a backslash before any other ASCII letter is an error, and before any other character it
  stays, with that character, as it is.

The template is read before any match is looked for, so its faults do not depend on the
text. Reading looks one token ahead: a lone backslash at the very end is reported as soon as
the token before it is taken, which is before that token's own faults.

A pattern's groups are numbered from 1; group 0 is the whole match. The patterns of this
library have no named groups, so every name is unknown.
-/

namespace BuildMigration

/-- A token of a template: a character, a backslash with the character after it, or a
    backslash that ends the template. -/
inductive TemplateToken where
  | plain (c : Char)
  | escape (c : Char)
  | lone
  deriving DecidableEq, Repr

/-- A token with the position of its first character. -/
structure PlacedToken where
  /-- Where the token starts in the template. -/
  pos : Nat
  /-- The token. -/
  token : TemplateToken
  deriving DecidableEq, Repr

namespace TemplateToken

/-- The characters of the token as written. -/
def chars : TemplateToken → List Char
  | plain c => [c]
  | escape c => ['\\', c]
  | lone => ['\\']

end TemplateToken

/-- The tokens of a template text whose first character is at position `pos`. -/
def tokenize : List Char → Nat → List PlacedToken
  | [], _ => []
  | ['\\'], pos => [⟨pos, .lone⟩]
  | '\\' :: c :: rest, pos => ⟨pos, .escape c⟩ :: tokenize rest (pos + 2)
  | c :: rest, pos => ⟨pos, .plain c⟩ :: tokenize rest (pos + 1)

/-- A piece of a read template: characters to insert, or the text of a group. -/
inductive TemplatePiece where
  | text (cs : List Char)
  | group (n : Nat)
  deriving DecidableEq, Repr

/-- A read template: its pieces in order. -/
abbrev Template := List TemplatePiece

/-- What is wrong at some position of a template. -/
inductive TemplateProblem where
  /-- The template ends with a lone backslash. -/
  | danglingBackslash
  /-- `\g` is not followed by `<`. -/
  | missingOpen
  /-- `\g<>`, or `\g<` at the end. -/
  | missingGroupName
  /-- `\g<name` without the closing `>`. -/
  | unterminatedName
  /-- The name of `\g<...>` is neither an identifier nor a non-negative integer. -/
  | badGroupName (name : List Char)
  /-- The group number is larger than the number of groups. -/
  | noSuchGroup (n : Nat)
  /-- A three-digit octal escape above `\377`; the digits are given. -/
  | octalTooLarge (digits : List Char)
  /-- A backslash before an ASCII letter that names no escape. -/
  | badEscape (c : Char)
  deriving DecidableEq, Repr

/-- Why a template cannot be used. -/
inductive TemplateFault where
  /-- The template is malformed at position `pos` of `source`. -/
  | malformed (problem : TemplateProblem) (source : List Char) (pos : Nat)
  /-- The template refers to a group by a name that the pattern does not have. -/
  | unknownGroupName (name : List Char)
  deriving DecidableEq, Repr

namespace TemplateProblem

/-- The wording of a problem, without its position. -/
def text : TemplateProblem → String
  | danglingBackslash => "bad escape (end of pattern)"
  | missingOpen => "missing <"
  | missingGroupName => "missing group name"
  | unterminatedName => "missing >, unterminated name"
  | badGroupName name => "bad character in group name " ++ Text.quote (String.ofList name)
  | noSuchGroup n => "invalid group reference " ++ toString n
  | octalTooLarge digits =>
    "octal escape value \\" ++ String.ofList digits ++ " outside of range 0-0o377"
  | badEscape c => "bad escape \\" ++ String.singleton c

end TemplateProblem

namespace TemplateFault

/-- Where a position lies in a text with line breaks: the line (from 1) and the column
    (from 1). -/
def lineAndColumn (source : List Char) (pos : Nat) : Nat × Nat :=
  let before := source.take pos
  let line := before.count '\n' + 1
  let column := (before.reverse.takeWhile (· ≠ '\n')).length + 1
  (line, column)

/-- The wording of a fault. A malformed template names the position, and also the line and
    column when the template has more than one line. -/
def message : TemplateFault → String
  | malformed problem source pos =>
    let placed := problem.text ++ " at position " ++ toString pos
    if source.contains '\n' then
      let (line, column) := lineAndColumn source pos
      placed ++ " (line " ++ toString line ++ ", column " ++ toString column ++ ")"
    else placed
  | unknownGroupName name => "unknown group name " ++ Text.quote (String.ofList name)

end TemplateFault

namespace Template

/-- The shorter rests of a token list. -/
abbrev Rest (toks : List PlacedToken) := { r : List PlacedToken // r.length ≤ toks.length }

/-- Taking a token makes the next one the lookahead: that fails if it is a lone backslash. -/
def lookAt (source : List Char) : List PlacedToken → Except TemplateFault Unit
  | ⟨pos, .lone⟩ :: _ => .error (.malformed .danglingBackslash source pos)
  | _ => .ok ()

/-- Whether the character is an octal digit. -/
def isOctal (c : Char) : Bool := '0' ≤ c && c ≤ '7'

/-- Whether the character is an ASCII digit. -/
def isAsciiDigit (c : Char) : Bool := '0' ≤ c && c ≤ '9'

/-- Whether the character is an ASCII letter. -/
def isAsciiLetter (c : Char) : Bool := ('a' ≤ c && c ≤ 'z') || ('A' ≤ c && c ≤ 'Z')

/-- The value of octal digits. -/
def octalValue (ds : List Char) : Nat :=
  ds.foldl (fun acc d => 8 * acc + (d.toNat - '0'.toNat)) 0

/-- The value of decimal digits. -/
def decimalValue (ds : List Char) : Nat :=
  ds.foldl (fun acc d => 10 * acc + (d.toNat - '0'.toNat)) 0

/-- The character that a one-letter escape stands for. -/
def namedEscape : Char → Option Char
  | 'a' => some '\x07'
  | 'b' => some '\x08'
  | 'f' => some '\x0c'
  | 'n' => some '\n'
  | 'r' => some '\r'
  | 't' => some '\t'
  | 'v' => some '\x0b'
  | '\\' => some '\\'
  | _ => none

/-- Reads the name of `\g<...>` up to the closing `>`: the name, the tokens after `>`, and the
    position after `>`. `endPos` is the length of the template. -/
def readName (source : List Char) (endPos : Nat) :
    (toks : List PlacedToken) → List Char → Except TemplateFault (List Char × Rest toks × Nat)
  | [], name =>
    if name.isEmpty then .error (.malformed .missingGroupName source endPos)
    else .error (.malformed .unterminatedName source (endPos - name.length))
  | t :: rest, name => do
    lookAt source rest
    match t.token with
    | .plain '>' =>
      if name.isEmpty then .error (.malformed .missingGroupName source t.pos)
      else .ok (name, ⟨rest, by simp⟩, t.pos + 1)
    | k =>
      match readName source endPos rest (name ++ k.chars) with
      | .error e => .error e
      | .ok (n, ⟨r, h⟩, p) => .ok (n, ⟨r, by simp; omega⟩, p)

/-- The group that the name of `\g<name>` refers to, given the number of groups; `closePos` is
    the position after `>`. -/
def groupOfName (source : List Char) (groups : Nat) (name : List Char) (closePos : Nat) :
    Except TemplateFault Nat :=
  let namePos := closePos - name.length - 1
  if Text.isIdentifier name then .error (.unknownGroupName name)
  else match Text.readInteger? name with
    | some n =>
      if n < 0 then .error (.malformed (.badGroupName name) source namePos)
      else if n.toNat > groups then .error (.malformed (.noSuchGroup n.toNat) source namePos)
      else .ok n.toNat
    | none => .error (.malformed (.badGroupName name) source namePos)

/-- Takes the next token if it is a character that satisfies `p`. -/
def takeIf (source : List Char) (p : Char → Bool) :
    (toks : List PlacedToken) → Except TemplateFault (Option (Char × Rest toks))
  | ⟨_, .plain c⟩ :: rest =>
    if p c then do
      lookAt source rest
      .ok (some (c, ⟨rest, by simp⟩))
    else .ok none
  | _ => .ok none

/-- The piece that a reference to group `n` gives, checked against the number of groups;
    `pos` is where the number starts. -/
def groupPiece (source : List Char) (groups n pos : Nat) : Except TemplateFault TemplatePiece :=
  if n > groups then .error (.malformed (.noSuchGroup n) source pos) else .ok (.group n)

/-- Reads the escape `\0` with up to two more octal digits. -/
def zeroEscape (source : List Char) (rest : List PlacedToken) :
    Except TemplateFault (TemplatePiece × Rest rest) :=
  match takeIf source isOctal rest with
  | .error e => .error e
  | .ok none => .ok (.text [Char.ofNat 0], ⟨rest, Nat.le_refl _⟩)
  | .ok (some (a, ⟨r1, h1⟩)) =>
    match takeIf source isOctal r1 with
    | .error e => .error e
    | .ok none => .ok (.text [Char.ofNat (octalValue [a] % 256)], ⟨r1, h1⟩)
    | .ok (some (b, ⟨r2, h2⟩)) =>
      .ok (.text [Char.ofNat (octalValue [a, b] % 256)], ⟨r2, by omega⟩)

/-- Reads an escape that starts with the digit `d` from 1 to 9: a group number of one or two
    digits, or a three-digit octal code. `pos` is where the backslash stands. -/
def digitEscape (source : List Char) (groups : Nat) (d : Char) (pos : Nat)
    (rest : List PlacedToken) : Except TemplateFault (TemplatePiece × Rest rest) :=
  match takeIf source isAsciiDigit rest with
  | .error e => .error e
  | .ok none =>
    match groupPiece source groups (decimalValue [d]) (pos + 1) with
    | .error e => .error e
    | .ok piece => .ok (piece, ⟨rest, Nat.le_refl _⟩)
  | .ok (some (e, ⟨r1, h1⟩)) =>
    let asGroup : Except TemplateFault (TemplatePiece × Rest rest) :=
      match groupPiece source groups (decimalValue [d, e]) (pos + 1) with
      | .error f => .error f
      | .ok piece => .ok (piece, ⟨r1, h1⟩)
    if isOctal d && isOctal e then
      match takeIf source isOctal r1 with
      | .error f => .error f
      | .ok none => asGroup
      | .ok (some (f, ⟨r2, h2⟩)) =>
        let code := octalValue [d, e, f]
        if code > 0o377 then .error (.malformed (.octalTooLarge [d, e, f]) source pos)
        else .ok (.text [Char.ofNat code], ⟨r2, by omega⟩)
    else asGroup

/-- Reads one piece that starts with the token `t`, followed by `rest`. -/
def item (source : List Char) (groups endPos : Nat) (t : PlacedToken) (rest : List PlacedToken) :
    Except TemplateFault (TemplatePiece × Rest rest) := do
  lookAt source rest
  match t.token with
  | .lone => .error (.malformed .danglingBackslash source t.pos)
  | .plain c => .ok (.text [c], ⟨rest, Nat.le_refl _⟩)
  | .escape 'g' =>
    match hr : rest with
    | ⟨_, .plain '<'⟩ :: rest' => do
      lookAt source rest'
      match readName source endPos rest' [] with
      | .error e => .error e
      | .ok (name, ⟨r, h⟩, closePos) =>
        let n ← groupOfName source groups name closePos
        .ok (.group n, ⟨r, by rw [hr]; exact Nat.le_trans h (Nat.le_succ _)⟩)
    | _ => .error (.malformed .missingOpen source (t.pos + 2))
  | .escape '0' => zeroEscape source rest
  | .escape c =>
    if '1' ≤ c && c ≤ '9' then digitEscape source groups c t.pos rest
    else match namedEscape c with
      | some e => .ok (.text [e], ⟨rest, Nat.le_refl _⟩)
      | none =>
        if isAsciiLetter c then .error (.malformed (.badEscape c) source t.pos)
        else .ok (.text ['\\', c], ⟨rest, Nat.le_refl _⟩)

/-- Reads the pieces of the tokens `toks`. -/
def pieces (source : List Char) (groups endPos : Nat) :
    (toks : List PlacedToken) → Except TemplateFault Template
  | [] => .ok []
  | t :: rest =>
    match item source groups endPos t rest with
    | .error e => .error e
    | .ok (p, ⟨r, _⟩) =>
      match pieces source groups endPos r with
      | .error e => .error e
      | .ok ps => .ok (p :: ps)
termination_by toks => toks.length

/-- Reads a template for a pattern with `groups` groups. -/
def parse (groups : Nat) (source : List Char) : Except TemplateFault Template :=
  pieces source groups source.length (tokenize source 0)

/-- The text that a template gives for a match, where `group n` is the text of group `n`. -/
def expand (tmpl : Template) (group : Nat → List Char) : List Char :=
  tmpl.flatMap fun
    | .text cs => cs
    | .group n => group n

end Template

end BuildMigration
