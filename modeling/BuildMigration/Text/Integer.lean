import BuildMigration.Text.CharClass
import BuildMigration.Text.Digit
/-!
# Integer literals

An *integer literal* is how a user writes a whole number on a command line: optional white
space, an optional sign `+` or `-`, decimal digits of any script, and optional white space.
A single underscore may stand between two digits (`1_000`). Other text, a leading or
trailing underscore, two underscores in a row, or more than 4300 digits are refused.

The white space around the number is the ASCII tab, line feed, vertical tab, form feed,
carriage return and space, and every blank character from code point 128 on; the ASCII
separators U+001C to U+001F are not allowed, nor is DEL or NUL. Digits are read through
`digitValue?`, so `٢` is 2.

* `readInteger?_toDigits`: a count written in decimal reads back as that count.
-/

namespace BuildMigration.Text

/-- The most digits that an integer literal may have. -/
def maxLiteralDigits : Nat := 4300

/-- Whether the character may surround an integer literal. -/
def isLiteralSpace (c : Char) : Bool :=
  if c.toNat < 128 then (9 ≤ c.toNat && c.toNat ≤ 13) || c = ' ' else isBlank c

/-- The digits of a literal's body, with single underscores between them: the value and the
    count of digits read so far are `acc` and `count`, and `afterDigit` says whether the
    last character was a digit. The body ends at the first character that is neither; the
    rest is returned. -/
def readDigits : List Char → Nat → Nat → Bool → Option (Nat × Nat × List Char)
  | [], acc, count, afterDigit => if afterDigit then some (acc, count, []) else none
  | c :: cs, acc, count, afterDigit =>
    match digitValue? c with
    | some d => readDigits cs (10 * acc + d) (count + 1) true
    | none =>
      if c = '_' then
        if afterDigit then readDigits cs acc count false else none
      else if afterDigit then some (acc, count, c :: cs) else none

/-- The value of an integer literal, or `none` if the text is not one. -/
def readInteger? (s : List Char) : Option Int :=
  let body := s.dropWhile isLiteralSpace
  let (negative, body) := match body with
    | '-' :: r => (true, r)
    | '+' :: r => (false, r)
    | r => (false, r)
  match body with
  | [] => none
  | c :: cs =>
    if (digitValue? c).isNone then none
    else match readDigits (c :: cs) 0 0 false with
      | none => none
      | some (value, count, rest) =>
        if count ≤ maxLiteralDigits && rest.all isLiteralSpace then
          some (if negative then -(value : Int) else value)
        else none

/-! ### Counts written in decimal -/

/-- The value of a run of digits, the most significant first. -/
theorem readDigits_cons {c : Char} {cs : List Char}
    (hd : ∀ d ∈ c :: cs, (digitValue? d).isSome) (acc count : Nat) (afterDigit : Bool) :
    readDigits (c :: cs) acc count afterDigit =
      some ((c :: cs).foldl (fun a d => 10 * a + (digitValue? d).getD 0) acc,
        count + (cs.length + 1), []) := by
  induction cs generalizing c acc count afterDigit with
  | nil =>
    obtain ⟨v, hv⟩ := Option.isSome_iff_exists.1 (hd c List.mem_cons_self)
    simp [readDigits, hv]
  | cons c' cs ih =>
    obtain ⟨v, hv⟩ := Option.isSome_iff_exists.1 (hd c List.mem_cons_self)
    have hstep : readDigits (c :: c' :: cs) acc count afterDigit =
        readDigits (c' :: cs) (10 * acc + v) (count + 1) true := by
      simp [readDigits, hv]
    rw [hstep, ih (fun d h => hd d (List.mem_cons_of_mem c h))]
    simp only [List.foldl_cons, hv, Option.getD_some, List.length_cons, Option.some.injEq,
      Prod.mk.injEq, true_and, and_true]
    omega

theorem digitChar_decimal : ∀ d < 10, digitValue? (Nat.digitChar d) = some d ∧
    isLiteralSpace (Nat.digitChar d) = false ∧ Nat.digitChar d ≠ '-' ∧ Nat.digitChar d ≠ '+' := by
  decide

/-- The decimal digits of a number are digit characters whose value is the number. -/
theorem toDigits_decimal (n : Nat) :
    (∀ c ∈ Nat.toDigits 10 n, ∃ d < 10, c = Nat.digitChar d) ∧
      (Nat.toDigits 10 n).foldl (fun a c => 10 * a + (digitValue? c).getD 0) 0 = n := by
  induction n using Nat.strongRecOn with
  | ind n ih =>
    rw [Nat.toDigits_eq_if (by decide)]
    split
    · rename_i hn
      refine ⟨fun c hc => ⟨n, hn, by simpa using hc⟩, ?_⟩
      simp [(digitChar_decimal n hn).1]
    · rename_i hn
      have hd := (digitChar_decimal (n % 10) (Nat.mod_lt _ (by decide))).1
      obtain ⟨ihd, ihv⟩ := ih (n / 10) (by omega)
      refine ⟨fun c hc => ?_, ?_⟩
      · rcases List.mem_append.1 hc with hc | hc
        · exact ihd c hc
        · exact ⟨n % 10, Nat.mod_lt _ (by decide), by simpa using hc⟩
      · rw [List.foldl_append, ihv]
        simp only [List.foldl_cons, List.foldl_nil, hd, Option.getD_some]
        omega

/-- A count written in decimal reads back as that count, up to the most digits a literal may
    have. -/
theorem readInteger?_toDigits {n : Nat} (hlen : (Nat.toDigits 10 n).length ≤ maxLiteralDigits) :
    readInteger? (Nat.toDigits 10 n) = some n := by
  obtain ⟨hdig, hval⟩ := toDigits_decimal n
  have hsome : ∀ c ∈ Nat.toDigits 10 n, (digitValue? c).isSome := fun c hc => by
    obtain ⟨d, hd, rfl⟩ := hdig c hc
    simp [(digitChar_decimal d hd).1]
  obtain ⟨c, cs, hds⟩ := List.exists_cons_of_ne_nil (Nat.toDigits_ne_nil (b := 10) (n := n))
  rw [hds] at hval hlen hsome
  -- the first digit is no blank and no sign, so the whole text is the literal's body
  obtain ⟨d, hd, hc⟩ := hdig c (hds ▸ List.mem_cons_self)
  obtain ⟨hv, hspace, hminus, hplus⟩ := digitChar_decimal d hd
  rw [← hc] at hv hspace hminus hplus
  have hbody : (c :: cs).dropWhile isLiteralSpace = c :: cs := by simp [hspace]
  simpa [readInteger?, hds, hbody, hminus, hplus, hv, readDigits_cons hsome, hval] using hlen

example : readInteger? "42".toList = some 42 := by decide +kernel

end BuildMigration.Text
