import BuildMigration.Error
/-!
# Target versions

A *target version* is three groups of one to three ASCII digits separated by dots, such as
`3.3.1`, and nothing else: no sign, no blank, no trailing line break, and no digit of
another script. Validation returns the version unchanged or fails with
`MigrationError.invalidVersion`, whose message quotes the text given.

* `validate_eq_ok_iff`: validation succeeds exactly on well-formed versions, and returns the
  text itself.
-/

namespace BuildMigration.Version

/-- Whether a group is one to three ASCII digits. -/
def isDigitGroup (g : List Char) : Bool :=
  1 ≤ g.length && g.length ≤ 3 && g.all fun c => '0' ≤ c && c ≤ '9'

/-- Whether the characters form a target version: three digit groups between two dots. -/
def isWellFormed (cs : List Char) : Bool :=
  match Text.splitOn '.' cs with
  | [a, b, c] => isDigitGroup a && isDigitGroup b && isDigitGroup c
  | _ => false

/-- The version itself if it is well formed, else the failure that quotes it. -/
def validate (s : String) : Except MigrationError String :=
  if isWellFormed s.toList then .ok s else .error (.invalidVersion s)

theorem validate_eq_ok_iff {s v : String} :
    validate s = .ok v ↔ isWellFormed s.toList = true ∧ v = s := by
  unfold validate
  by_cases h : isWellFormed s.toList = true
  · simp only [h, if_true, true_and]
    exact ⟨fun e => (Except.ok.inj e).symm, fun e => e ▸ rfl⟩
  · simp [h]

end BuildMigration.Version
