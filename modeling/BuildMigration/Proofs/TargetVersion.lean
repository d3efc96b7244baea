import BuildMigration.Proofs.Literal
import BuildMigration.Proofs.Substitution
/-!
# What a target version does

The target version is the one text of a migration that the user types in. Validation accepts
exactly the versions of the form `N.N.N`, three runs of one to three ASCII digits, said here
without cutting the text at its dots (`VersionSyntax`). A text that fails is named in the
message by its quoted literal, and that literal reads back as the text itself
(`Text.readLiteral_quote`): so the message tells which text was refused, and two refused texts
never share a message.

Rewriting splices the version, unchecked, into the replacement templates of the banner and of
the coordinate. A template is read before any match is looked for, so whether a replacement
fails, and with which fault, is a matter of the version alone, never of the text; the banner's
template is read first. A version without a backslash, and every valid version is one, makes
templates that insert their own characters.

* `isWellFormed_iff`: the well-formed versions are those of `VersionSyntax`;
* `invalidVersion_message_inj`: the message of a refused version determines the version;
* `validate_accepts_exactly`: validation succeeds exactly on `VersionSyntax`, and its failure
  names the text by a literal that reads back as it;
* `replaceBanner_eq_error_iff`, `replaceCoordinate_eq_error_iff`: a replacement fails exactly
  with its template's fault (and, by `replaceBanner_of_no_backslash`, never without a
  backslash in the version);
* `template_faults_textFree`: the faults of the templates do not depend on the text.
-/

namespace BuildMigration

open Text

namespace Version

/-- One to three ASCII digits. -/
def IsDigitRun (g : List Char) : Prop :=
  1 ≤ g.length ∧ g.length ≤ 3 ∧ ∀ d ∈ g, '0' ≤ d ∧ d ≤ '9'

/-- A target version: three runs of one to three ASCII digits with a dot between each two, and
    nothing else. -/
def VersionSyntax (cs : List Char) : Prop :=
  ∃ a b c, IsDigitRun a ∧ IsDigitRun b ∧ IsDigitRun c ∧ cs = a ++ '.' :: (b ++ '.' :: c)

theorem isDigitGroup_iff {g : List Char} : isDigitGroup g = true ↔ IsDigitRun g := by
  simp [isDigitGroup, IsDigitRun, and_assoc]

theorem dot_not_mem_of_isDigitRun {g : List Char} (h : IsDigitRun g) : '.' ∉ g := fun hd =>
  absurd (h.2.2 '.' hd).1 (by decide)

theorem isWellFormed_iff {cs : List Char} : isWellFormed cs = true ↔ VersionSyntax cs := by
  constructor
  · intro h
    obtain ⟨a, b, c, ha, hb, hc, rfl⟩ := eq_of_isWellFormed h
    exact ⟨a, b, c, isDigitGroup_iff.1 ha, isDigitGroup_iff.1 hb, isDigitGroup_iff.1 hc, rfl⟩
  · rintro ⟨a, b, c, ha, hb, hc, rfl⟩
    -- the runs hold no dot, so the two dots cut the text into them
    rw [isWellFormed, splitOn_append_cons (dot_not_mem_of_isDigitRun ha),
      splitOn_append_cons (dot_not_mem_of_isDigitRun hb),
      splitOn_of_not_mem (dot_not_mem_of_isDigitRun hc)]
    simp [isDigitGroup_iff.2 ha, isDigitGroup_iff.2 hb, isDigitGroup_iff.2 hc]

theorem validate_eq_error_iff {s : String} {e : MigrationError} :
    validate s = .error e ↔ e = .invalidVersion s ∧ ¬ VersionSyntax s.toList := by
  rw [← isWellFormed_iff]
  unfold validate
  by_cases h : isWellFormed s.toList = true
  · simp [h]
  · simp [h, eq_comm]

end Version

namespace MigrationError

theorem message_invalidVersion (s : String) :
    (invalidVersion s).message =
      "Invalid scala version string given: " ++ quote s ++ " (expected e.g. 3.3.1)" := rfl

/-- Two refused versions with one message are one version: the message holds the quoted
    literal of the version, which reads back as the version. -/
theorem invalidVersion_message_inj {s s' : String}
    (h : (invalidVersion s).message = (invalidVersion s').message) : s = s' := by
  have hl := congrArg String.toList h
  rw [message_invalidVersion, message_invalidVersion] at hl
  simp only [String.toList_append, List.append_assoc] at hl
  have hq := congrArg readLiteral (List.append_cancel_left hl)
  rw [readLiteral_quote, readLiteral_quote] at hq
  exact String.toList_inj.1 (Prod.ext_iff.1 (Option.some.inj hq)).1

end MigrationError

namespace Version

/-- Validation succeeds exactly on the texts of the form `N.N.N`, and then gives the text
    itself; it fails on every other text, naming it in its message by its quoted literal. The
    literal reads back as the text, so no two refused texts share a message. -/
theorem validate_accepts_exactly (s : String) :
    (∀ v, validate s = .ok v ↔ v = s ∧ VersionSyntax s.toList) ∧
    (∀ e, validate s = .error e ↔ e = .invalidVersion s ∧ ¬ VersionSyntax s.toList) ∧
    (MigrationError.invalidVersion s).message =
      "Invalid scala version string given: " ++ quote s ++ " (expected e.g. 3.3.1)" ∧
    readLiteral (quote s).toList = some (s.toList, []) ∧
    ∀ s', (MigrationError.invalidVersion s').message = (MigrationError.invalidVersion s).message →
      s' = s := by
  refine ⟨fun v => ?_, fun e => validate_eq_error_iff, MigrationError.message_invalidVersion s, ?_,
    fun s' h => MigrationError.invalidVersion_message_inj h⟩
  · rw [validate_eq_ok_iff, isWellFormed_iff, and_comm]
  · simpa using readLiteral_quote s []

end Version

namespace BuildText

theorem replaceBanner_eq_error_iff {t v : List Char} {e : TemplateFault} :
    replaceBanner t v = .error e ↔ Template.parse 0 (bannerTemplate v) = .error e := by
  unfold replaceBanner
  cases Template.parse 0 (bannerTemplate v) <;> simp

theorem replaceCoordinate_eq_error_iff {t v : List Char} {e : TemplateFault} :
    replaceCoordinate t v = .error e ↔ Template.parse 1 (coordinateTemplate v) = .error e := by
  unfold replaceCoordinate
  cases Template.parse 1 (coordinateTemplate v) <;> simp

/-- The templates of a version fail or succeed whatever the text. A replacement fails exactly
    when its template cannot be read, with the template's fault; a rewrite fails exactly when
    one of the two templates cannot be read, with the banner's fault first. A version without
    a backslash, as every valid version is, makes templates that insert their own characters in
    the place of the first match. -/
theorem template_faults_textFree (v : List Char) :
    (∀ t e, replaceBanner t v = .error e ↔ Template.parse 0 (bannerTemplate v) = .error e) ∧
    (∀ t e, replaceCoordinate t v = .error e ↔
      Template.parse 1 (coordinateTemplate v) = .error e) ∧
    (∀ t lib e, rewrite t v lib = .error e ↔
      Template.parse 0 (bannerTemplate v) = .error e ∨
        ((∃ tm, Template.parse 0 (bannerTemplate v) = .ok tm) ∧
          Template.parse 1 (coordinateTemplate v) = .error e)) ∧
    ('\\' ∉ v → ∀ t,
      replaceBanner t v = .ok (banner.replaceFirst (fun _ => bannerTemplate v) t) ∧
      replaceCoordinate t v = .ok (coordinate.replaceFirst (fun _ => coordinateTemplate v) t)) ∧
    ∀ s : String, Version.validate s = .ok s → '\\' ∉ s.toList := by
  refine ⟨fun t e => replaceBanner_eq_error_iff, fun t e => replaceCoordinate_eq_error_iff,
    fun t lib e => rewrite_eq_error_iff, fun hv t => ⟨replaceBanner_of_no_backslash hv t,
      replaceCoordinate_of_no_backslash hv t⟩, fun s hs => ?_⟩
  -- a valid version is digits and dots
  exact Version.backslash_not_mem_of_isWellFormed (Version.validate_eq_ok_iff.1 hs).1

/-- The release version `3.3.1` has no backslash: its banner template goes in as it is. -/
theorem template_faults_textFree_release :
    '\\' ∉ "3.3.1".toList ∧
      replaceBanner "// Use Scala 2.13 here".toList "3.3.1".toList =
        .ok "// Use Scala 3.3.1 here".toList := by
  have hv : '\\' ∉ "3.3.1".toList := by decide
  refine ⟨hv, ?_⟩
  rw [((template_faults_textFree _).2.2.2.1 hv _).1]
  decide

end BuildText

end BuildMigration
