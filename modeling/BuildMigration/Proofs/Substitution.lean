import BuildMigration.BuildText.Rewrite
import BuildMigration.Proofs.Scanners
import BuildMigration.Version
/-!
# Rewriting with a well-formed version

The new texts of a rewrite are replacement templates with the version spliced in. A
well-formed version is digits and dots, so these templates hold no backslash, and a template
without a backslash reads as its own characters, one piece each, whatever the number of
groups: it expands to itself for every match. Rewriting with a well-formed version therefore
never fails, and each of its steps puts a fixed text in the place of a leftmost match.

* `Template.parse_of_no_backslash`, `Template.expand_literal`: a template without a
  backslash is literal;
* `replaceBanner_of_no_backslash`, `replaceCoordinate_of_no_backslash`: a version without a
  backslash makes replacements by fixed texts;
* `Version.eq_of_isWellFormed`: a well-formed version is three digit groups and two dots;
* `rewrite_of_isWellFormed`: rewriting with a well-formed version is three replacements by
  fixed texts, the new banner and the new coordinate;
* what the new banner and the new coordinate are made of: no quote in the banner, no `A`
  in either, quotes only at the ends of the coordinate.
-/

namespace BuildMigration

namespace Template

/-- The template that inserts the characters of a text one by one. -/
def literal (s : List Char) : Template := s.map fun c => .text [c]

theorem tokenize_cons_of_ne {c : Char} (hc : c ≠ '\\') (s : List Char) (pos : Nat) :
    tokenize (c :: s) pos = ⟨pos, .plain c⟩ :: tokenize s (pos + 1) := by
  cases s <;> simp [tokenize, hc]

/-- The lookahead of a text without backslashes is never a lone backslash. -/
theorem lookAt_tokenize {source s : List Char} (h : '\\' ∉ s) (pos : Nat) :
    lookAt source (tokenize s pos) = .ok () := by
  cases s with
  | nil => rfl
  | cons c s =>
    rw [tokenize_cons_of_ne (fun e => h (e ▸ List.mem_cons_self))]
    rfl

theorem item_plain {source : List Char} {groups endPos pos : Nat} {c : Char}
    {toks : List PlacedToken} (h : lookAt source toks = .ok ()) :
    item source groups endPos ⟨pos, .plain c⟩ toks = .ok (.text [c], ⟨toks, Nat.le_refl _⟩) := by
  simp [item, h, bind, Except.bind]

theorem pieces_tokenize {source s : List Char} {groups endPos : Nat} (h : '\\' ∉ s) (pos : Nat) :
    pieces source groups endPos (tokenize s pos) = .ok (literal s) := by
  induction s generalizing pos with
  | nil => simp [tokenize, pieces, literal]
  | cons c s ih =>
    have hs : '\\' ∉ s := fun hm => h (List.mem_cons_of_mem _ hm)
    rw [tokenize_cons_of_ne (fun e => h (e ▸ List.mem_cons_self)), pieces,
      item_plain (lookAt_tokenize hs _)]
    simp only [ih hs]
    rfl

/-- A template without backslashes is read as its characters, for any number of groups. -/
theorem parse_of_no_backslash {s : List Char} (h : '\\' ∉ s) (groups : Nat) :
    parse groups s = .ok (literal s) :=
  pieces_tokenize h 0

@[simp] theorem expand_literal (s : List Char) (group : Nat → List Char) :
    expand (literal s) group = s := by
  induction s with
  | nil => rfl
  | cons c s ih => simpa [expand, literal] using ih

end Template

namespace Version

/-- Whether the character may stand in a well-formed version: a dot or an ASCII digit. -/
def isVersionChar (c : Char) : Bool := c = '.' || ('0' ≤ c && c ≤ '9')

theorem toNat_of_digit {c : Char} (h : ('0' ≤ c && c ≤ '9') = true) :
    48 ≤ c.toNat ∧ c.toNat ≤ 57 := by
  simpa [Char.le_def, UInt32.le_iff_toNat_le] using h

/-- A well-formed version is three digit groups with a dot between each two. -/
theorem eq_of_isWellFormed {v : List Char} (h : isWellFormed v = true) :
    ∃ a b c, isDigitGroup a ∧ isDigitGroup b ∧ isDigitGroup c ∧ v = a ++ '.' :: (b ++ '.' :: c) := by
  unfold isWellFormed at h
  have hv := Text.joinWith_splitOn '.' v
  split at h
  · rename_i a b c hs
    simp only [Bool.and_eq_true] at h
    rw [hs] at hv
    exact ⟨a, b, c, h.1.1, h.1.2, h.2, hv.symm⟩
  · simp at h

theorem isVersionChar_of_mem_digitGroup {g : List Char} (h : isDigitGroup g = true) {c : Char}
    (hc : c ∈ g) : isVersionChar c = true := by
  simp only [isDigitGroup, Bool.and_eq_true, List.all_eq_true] at h
  simp [isVersionChar, h.2 c hc]

theorem isVersionChar_of_isWellFormed {v : List Char} (h : isWellFormed v = true) :
    ∀ c ∈ v, isVersionChar c = true := by
  obtain ⟨a, b, c, ha, hb, hc, rfl⟩ := eq_of_isWellFormed h
  intro d hd
  simp only [List.mem_append, List.mem_cons] at hd
  rcases hd with hd | rfl | hd | rfl | hd
  · exact isVersionChar_of_mem_digitGroup ha hd
  · rfl
  · exact isVersionChar_of_mem_digitGroup hb hd
  · rfl
  · exact isVersionChar_of_mem_digitGroup hc hd

/-- A well-formed version holds no backslash. -/
theorem backslash_not_mem_of_isWellFormed {v : List Char} (h : isWellFormed v = true) :
    '\\' ∉ v :=
  fun hb => absurd (isVersionChar_of_isWellFormed h '\\' hb) (by decide)

/-- A well-formed version ends with a digit. -/
theorem eq_append_digit_of_isWellFormed {v : List Char} (h : isWellFormed v = true) :
    ∃ u d, v = u ++ [d] ∧ 48 ≤ d.toNat ∧ d.toNat ≤ 57 := by
  obtain ⟨a, b, c, -, -, hc, rfl⟩ := eq_of_isWellFormed h
  simp only [isDigitGroup, Bool.and_eq_true, List.all_eq_true, decide_eq_true_eq] at hc
  obtain ⟨⟨hlen, -⟩, hdig⟩ := hc
  rcases List.eq_nil_or_concat c with rfl | ⟨L, d, rfl⟩
  · simp at hlen
  · exact ⟨a ++ '.' :: (b ++ '.' :: L), d, by simp, toNat_of_digit (by simpa using hdig d (by simp))⟩

section Chars

variable {c : Char} (h : isVersionChar c = true)
include h

theorem isVersionChar_cases : c = '.' ∨ 48 ≤ c.toNat ∧ c.toNat ≤ 57 := by
  simp only [isVersionChar, Bool.or_eq_true, decide_eq_true_eq] at h
  exact h.imp_right toNat_of_digit

theorem isQuote_of_isVersionChar : BuildText.isQuote c = false := by
  rcases isVersionChar_cases h with rfl | hd
  · rfl
  · simp only [BuildText.isQuote, Bool.or_eq_false_iff, decide_eq_false_iff_not]
    constructor <;> rintro rfl <;> simp at hd

theorem isBlank_of_isVersionChar : Text.isBlank c = false := by
  rcases isVersionChar_cases h with rfl | hd
  · rfl
  · have hlt : c.toNat < 128 := by omega
    simp only [Text.isBlank, hlt, if_true]
    simp
    omega

end Chars

end Version

namespace BuildText

open Text

/-- The new coordinate without its quotes and its version. -/
def scala3Body : List Char := "org.scala-lang:scala3-library_3:".toList

theorem coordinateTemplate_eq (v : List Char) :
    coordinateTemplate v = '"' :: (scala3Body ++ v ++ ['"']) := rfl

/-- A version without a backslash makes a banner template that inserts its own characters. -/
theorem replaceBanner_of_no_backslash {v : List Char} (hv : '\\' ∉ v) (text : List Char) :
    replaceBanner text v = .ok (banner.replaceFirst (fun _ => bannerTemplate v) text) := by
  have hb : '\\' ∉ bannerTemplate v := by
    simp only [bannerTemplate, List.mem_append, not_or]
    exact ⟨⟨by decide, hv⟩, by decide⟩
  simp [replaceBanner, Template.parse_of_no_backslash hb]

/-- A version without a backslash makes a coordinate template that inserts its own characters,
    the quote included. -/
theorem replaceCoordinate_of_no_backslash {v : List Char} (hv : '\\' ∉ v) (text : List Char) :
    replaceCoordinate text v =
      .ok (coordinate.replaceFirst (fun _ => coordinateTemplate v) text) := by
  have hc : '\\' ∉ coordinateTemplate v := by
    simp only [coordinateTemplate, List.mem_append, not_or]
    exact ⟨⟨by decide, hv⟩, by decide⟩
  simp [replaceCoordinate, Template.parse_of_no_backslash hc]

section WellFormed

variable {v : List Char} (hv : Version.isWellFormed v = true)
include hv

/-- A character that no version holds is in a template only where the template's own text
    has it. -/
theorem not_mem_template {c : Char} {lead tail : List Char}
    (hc : Version.isVersionChar c = false) (hl : c ∉ lead ++ tail) : c ∉ lead ++ v ++ tail := by
  intro h
  rw [List.mem_append, List.mem_append] at h
  rcases h with (h | h) | h
  · exact hl (List.mem_append_left _ h)
  · rw [Version.isVersionChar_of_isWellFormed hv c h] at hc
    cases hc
  · exact hl (List.mem_append_right _ h)

theorem not_mem_bannerTemplate {c : Char} (hc : Version.isVersionChar c = false)
    (hl : c ∉ bannerLead ++ [' ']) : c ∉ bannerTemplate v :=
  not_mem_template hv hc hl

theorem not_mem_coordinateTemplate {c : Char} (hc : Version.isVersionChar c = false)
    (hl : c ∉ scala3Lead ++ ['"']) : c ∉ coordinateTemplate v :=
  not_mem_template hv hc hl

theorem replaceBanner_of_isWellFormed (text : List Char) :
    replaceBanner text v = .ok (banner.replaceFirst (fun _ => bannerTemplate v) text) :=
  replaceBanner_of_no_backslash (Version.backslash_not_mem_of_isWellFormed hv) text

theorem replaceCoordinate_of_isWellFormed (text : List Char) :
    replaceCoordinate text v = .ok (coordinate.replaceFirst (fun _ => coordinateTemplate v) text) :=
  replaceCoordinate_of_no_backslash (Version.backslash_not_mem_of_isWellFormed hv) text

/-- Rewriting with a well-formed version never fails: it puts the new banner in the place of
    the first banner, then the new coordinate in the place of the first coordinate, then, for
    an application, `.main` in the place of the first `.App`. -/
theorem rewrite_of_isWellFormed (text : List Char) (isLibrary : Bool) :
    rewrite text v isLibrary =
      .ok (let t := coordinate.replaceFirst (fun _ => coordinateTemplate v)
            (banner.replaceFirst (fun _ => bannerTemplate v) text)
          if isLibrary then t else renameEntryPoint t) := by
  simp [rewrite, replaceBanner_of_isWellFormed hv, replaceCoordinate_of_isWellFormed hv]

/-- The new banner starts no `.App`: it has no `A` and ends with a space. -/
theorem entry_clear_bannerTemplate (rest : List Char) : entry.Clear (bannerTemplate v) rest :=
  entry_clear_of_no_A (not_mem_bannerTemplate hv (by decide) (by decide)) (by simp [bannerTemplate])

/-- The new coordinate starts no `.App`: it has no `A` and ends with a quote. -/
theorem entry_clear_coordinateTemplate (rest : List Char) :
    entry.Clear (coordinateTemplate v) rest :=
  entry_clear_of_no_A (not_mem_coordinateTemplate hv (by decide) (by decide))
    (by simp [coordinateTemplate])

/-- The name run that the new coordinate opens is not an entry name: it ends with a digit of
    the version. -/
theorem isEntryName_scala3Body : isEntryName (scala3Body ++ v) = false := by
  obtain ⟨u, d, rfl, hd⟩ := Version.eq_append_digit_of_isWellFormed hv
  have hp : d ≠ 'p' := by rintro rfl; simp at hd
  have hn : d ≠ 'n' := by rintro rfl; simp at hd
  rw [← List.append_assoc]
  simp only [isEntryName, Bool.or_eq_false_iff, Bool.and_eq_false_iff]
  constructor <;> left <;> rw [Bool.eq_false_iff] <;> intro hs <;>
    obtain ⟨z, hz⟩ := List.isSuffixOf_iff_suffix.1 hs <;>
    have hl := congrArg List.getLast? hz
  · rw [show ".App".toList = ['.', 'A', 'p'] ++ ['p'] from rfl, ← List.append_assoc,
      List.getLast?_concat, List.getLast?_concat] at hl
    exact hp (Option.some.inj hl).symm
  · rw [show ".main".toList = ['.', 'm', 'a', 'i'] ++ ['n'] from rfl, ← List.append_assoc,
      List.getLast?_concat, List.getLast?_concat] at hl
    exact hn (Option.some.inj hl).symm

/-- No main class starts in the new coordinate, unless its closing quote opens one. -/
theorem mainClass_clear_coordinateTemplate (rest : List Char) :
    mainClass.Clear (coordinateTemplate v) rest ↔ mainClassAt ('"' :: rest) = none := by
  have hbody : ∀ c ∈ scala3Body ++ v, inClassName c = true := by
    intro c hc
    rcases List.mem_append.1 hc with hc | hc
    · exact List.all_eq_true.1 (by decide : scala3Body.all inClassName = true) c hc
    · have hvc := Version.isVersionChar_of_isWellFormed hv c hc
      simp [inClassName, Version.isQuote_of_isVersionChar hvc,
        Version.isBlank_of_isVersionChar hvc]
  -- the opening quote: its run is the body and the version, which is no entry name
  have hopen : mainClassAt ('"' :: (scala3Body ++ v ++ ['"'] ++ rest)) = none := by
    have hq : inClassName '"' = false := by decide
    rw [mainClassAt_eq_none_iff, List.append_assoc, List.takeWhile_append_of_pos hbody,
      List.singleton_append, List.takeWhile_cons_of_neg (by simp [hq]), List.append_nil,
      isEntryName_scala3Body hv]
    simp
  have hinner : mainClass.Clear (scala3Body ++ v) (['"'] ++ rest) :=
    mainClass_clear_of_no_quote fun c hc => by
      have := hbody c hc
      simp only [inClassName, Bool.and_eq_true, Bool.not_eq_true'] at this
      exact this.1
  have hlast : mainClass.Clear ['"'] rest ↔ mainClassAt ('"' :: rest) = none := by
    simp only [Pattern.clear_cons, List.nil_append, Pattern.clear_nil, and_true, mainClass_matchAt]
  rw [coordinateTemplate_eq, Pattern.clear_cons, Pattern.clear_append, hlast, mainClass_matchAt]
  exact ⟨fun h => h.2.2, fun h => ⟨hopen, hinner, h⟩⟩

end WellFormed

end BuildText

end BuildMigration
