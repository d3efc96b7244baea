import BuildMigration.Text.CharClass
/-!
# Decimal digits

A *decimal digit* is a character of general category Nd: the ASCII digits and the digits
of the other scripts, such as `٢` (ARABIC-INDIC DIGIT TWO) or `𝟙`. In Unicode every such
character lies in a run of ten, or of a multiple of ten, consecutive code points whose
values go 0, 1, …, 9 and start again, so a digit's value is its distance from the start of
its run, modulo ten. The table lists these runs of Unicode 14 from code point 128 on.

* `digitValue?_of_lt`: on ASCII, the digits are `0` to `9` with their usual values.
* `digitValue?_lt`: a digit's value is below ten.
-/

namespace BuildMigration.Text

/-- The runs of decimal digits at or above code point 128 (Unicode 14); each starts with a
    zero. -/
def decimalRuns : List (Nat × Nat) :=
[
  (0x660, 0x669), (0x6F0, 0x6F9), (0x7C0, 0x7C9), (0x966, 0x96F), (0x9E6, 0x9EF),
  (0xA66, 0xA6F), (0xAE6, 0xAEF), (0xB66, 0xB6F), (0xBE6, 0xBEF), (0xC66, 0xC6F),
  (0xCE6, 0xCEF), (0xD66, 0xD6F), (0xDE6, 0xDEF), (0xE50, 0xE59), (0xED0, 0xED9),
  (0xF20, 0xF29), (0x1040, 0x1049), (0x1090, 0x1099), (0x17E0, 0x17E9), (0x1810, 0x1819),
  (0x1946, 0x194F), (0x19D0, 0x19D9), (0x1A80, 0x1A89), (0x1A90, 0x1A99), (0x1B50, 0x1B59),
  (0x1BB0, 0x1BB9), (0x1C40, 0x1C49), (0x1C50, 0x1C59), (0xA620, 0xA629), (0xA8D0, 0xA8D9),
  (0xA900, 0xA909), (0xA9D0, 0xA9D9), (0xA9F0, 0xA9F9), (0xAA50, 0xAA59), (0xABF0, 0xABF9),
  (0xFF10, 0xFF19), (0x104A0, 0x104A9), (0x10D30, 0x10D39), (0x11066, 0x1106F), (0x110F0, 0x110F9),
  (0x11136, 0x1113F), (0x111D0, 0x111D9), (0x112F0, 0x112F9), (0x11450, 0x11459), (0x114D0, 0x114D9),
  (0x11650, 0x11659), (0x116C0, 0x116C9), (0x11730, 0x11739), (0x118E0, 0x118E9), (0x11950, 0x11959),
  (0x11C50, 0x11C59), (0x11D50, 0x11D59), (0x11DA0, 0x11DA9), (0x16A60, 0x16A69), (0x16AC0, 0x16AC9),
  (0x16B50, 0x16B59), (0x1D7CE, 0x1D7FF), (0x1E140, 0x1E149), (0x1E2F0, 0x1E2F9), (0x1E950, 0x1E959),
  (0x1FBF0, 0x1FBF9)]

/-- The value of the digit whose code point is `n`, looked up in the runs. -/
def runValue? (n : Nat) : List (Nat × Nat) → Option Nat
  | [] => none
  | r :: rs => if r.1 ≤ n && n ≤ r.2 then some ((n - r.1) % 10) else runValue? n rs

/-- The value of a decimal digit, or `none` for any other character. -/
def digitValue? (c : Char) : Option Nat :=
  if c.toNat < 128 then
    if '0' ≤ c && c ≤ '9' then some (c.toNat - '0'.toNat) else none
  else runValue? c.toNat decimalRuns

/-- Whether the character is a decimal digit. -/
def isDecimalDigit (c : Char) : Bool := (digitValue? c).isSome

theorem digitValue?_of_lt {c : Char} (h : c.toNat < 128) :
    digitValue? c = if '0' ≤ c && c ≤ '9' then some (c.toNat - '0'.toNat) else none := by
  simp [digitValue?, h]

theorem runValue?_lt {n d : Nat} {rs : List (Nat × Nat)} (h : runValue? n rs = some d) :
    d < 10 := by
  induction rs with
  | nil => simp [runValue?] at h
  | cons r rs ih =>
    simp only [runValue?] at h
    split at h
    · simp only [Option.some.injEq] at h; omega
    · exact ih h

theorem digitValue?_lt {c : Char} {d : Nat} (h : digitValue? c = some d) : d < 10 := by
  unfold digitValue? at h
  split at h
  · split at h
    · rename_i h9
      simp only [Option.some.injEq] at h
      simp only [Bool.and_eq_true, decide_eq_true_eq] at h9
      obtain ⟨-, h9⟩ := h9
      have : c.toNat ≤ '9'.toNat := h9
      have : '9'.toNat = '0'.toNat + 9 := rfl
      omega
    · simp at h
  · exact runValue?_lt h

end BuildMigration.Text
