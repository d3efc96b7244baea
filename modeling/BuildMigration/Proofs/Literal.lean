import Mathlib.Data.Nat.Digits.Defs
import BuildMigration.Text.Quoted
/-!
# Reading a quoted literal back

The quoted literal of a text (`Text.quote`) is meant to be read back as that text by whoever
reads a message. This module gives the reader: a string literal read the way Python reads a
short string literal, for the part of the literal syntax that quoting uses. The literal opens
with `'` or `"` and ends at the next unescaped occurrence of the same quote. In between, a
backslash starts an escape: `\\`, `\'` and `\"` stand for the character after the backslash;
`\t`, `\n` and `\r` for tab, line feed and carriage return; `\x`, `\u` and `\U` followed by
exactly two, four and eight hex digits (of either case) for the character of that code. Any
other printable character stands for itself. Everything else (an unknown escape, a
non-printable character, a code that is no character, a missing closing quote) is refused,
so wherever this reader gives a text, a Python reader gives the same text.

Quoting escapes the backslash and the chosen quote, writes every character that is not
printable as an escape of the narrowest width that holds its code, and leaves the rest as it
is. Each character so written reads back as itself, and none of them starts with the closing
quote, so the whole literal reads back as the text, whatever follows it.

* `hexDigits_read`: the padded hex digits of a code read back as that code;
* `readUnit_escapeChar`: each written character reads back as itself;
* `readLiteral_quoteChars`: a quoted literal reads back as its text, and the reader stops at
  its closing quote.
-/

namespace BuildMigration.Text

/-- Whether the character is a hex digit, of either case. -/
def isHexDigit (c : Char) : Bool :=
  ('0' ≤ c && c ≤ '9') || ('a' ≤ c && c ≤ 'f') || ('A' ≤ c && c ≤ 'F')

/-- The value of a hex digit. -/
def hexDigitValue (c : Char) : Nat :=
  if c ≤ '9' then c.toNat - 48 else if c ≤ 'F' then c.toNat - 55 else c.toNat - 87

/-- The value of hex digits, the most significant first. -/
def hexValue (ds : List Char) : Nat :=
  ds.foldl (fun acc d => 16 * acc + hexDigitValue d) 0

/-- The character of the `width` hex digits at the front of a text, and the rest. -/
def readHexEscape (width : Nat) (cs : List Char) : Option (Char × List Char) :=
  let ds := cs.take width
  if ds.length = width ∧ ds.all isHexDigit ∧ (hexValue ds).isValidChar then
    some (Char.ofNat (hexValue ds), cs.drop width)
  else none

/-- The character that a backslash and `e` stand for, with the hex digits of `\x`, `\u` and
    `\U` read from `rest`; and what follows the escape. -/
def readEscape (e : Char) (rest : List Char) : Option (Char × List Char) :=
  if e = '\\' ∨ e = '\'' ∨ e = '"' then some (e, rest)
  else if e = 't' then some ('\t', rest)
  else if e = 'n' then some ('\n', rest)
  else if e = 'r' then some ('\r', rest)
  else if e = 'x' then readHexEscape 2 rest
  else if e = 'u' then readHexEscape 4 rest
  else if e = 'U' then readHexEscape 8 rest
  else none

/-- One character of a literal's body, an escape or a printable character, and the rest. -/
def readUnit : List Char → Option (Char × List Char)
  | [] => none
  | c :: rest =>
    if c = '\\' then
      match rest with
      | e :: rest' => readEscape e rest'
      | [] => none
    else if isPrintable c then some (c, rest) else none

theorem readHexEscape_length {w : Nat} {cs r : List Char} {c : Char}
    (h : readHexEscape w cs = some (c, r)) : r.length ≤ cs.length := by
  simp only [readHexEscape] at h
  split at h
  · cases h
    simp
  · cases h

theorem readEscape_length {e c : Char} {rest r : List Char} (h : readEscape e rest = some (c, r)) :
    r.length ≤ rest.length := by
  unfold readEscape at h
  repeat' split at h
  all_goals first
    | (cases h; exact Nat.le_refl _)
    | exact readHexEscape_length h
    | cases h

theorem readUnit_length {cs r : List Char} {c : Char} (h : readUnit cs = some (c, r)) :
    r.length < cs.length := by
  match cs, h with
  | d :: rest, h =>
    simp only [readUnit] at h
    split at h
    · split at h
      · have := readEscape_length h
        simp only [List.length_cons]
        omega
      · cases h
    · split at h
      · cases h
        simp
      · cases h

/-- The body of a literal quoted with `q`: the text up to the closing quote, and what follows
    that quote. -/
def readBody (q : Char) (cs : List Char) : Option (List Char × List Char) :=
  match cs with
  | [] => none
  | c :: rest =>
    if c = q then some ([], rest)
    else
      match h : readUnit (c :: rest) with
      | some (d, r) =>
        have : r.length < rest.length + 1 := readUnit_length h
        (readBody q r).map fun (v, after) => (d :: v, after)
      | none => none
termination_by cs.length

/-- The literal at the front of a text: the text it stands for, and what follows it. -/
def readLiteral : List Char → Option (List Char × List Char)
  | [] => none
  | q :: rest => if q = '\'' ∨ q = '"' then readBody q rest else none

/-! ### Hex digits -/

theorem digitChar_hex : ∀ d < 16, isHexDigit (Nat.digitChar d) ∧ hexDigitValue (Nat.digitChar d) = d := by
  decide

theorem hexValue_append_digit (ds : List Char) (d : Char) :
    hexValue (ds ++ [d]) = 16 * hexValue ds + hexDigitValue d := by
  simp [hexValue, List.foldl_append]

/-- The digits of a number read back as that number. -/
theorem toDigits_hex (n : Nat) :
    (∀ c ∈ Nat.toDigits 16 n, isHexDigit c) ∧ hexValue (Nat.toDigits 16 n) = n := by
  induction n using Nat.strong_induction_on with
  | _ n ih =>
    rw [Nat.toDigits_eq_if (by decide)]
    split
    · rename_i hn
      obtain ⟨hd, hv⟩ := digitChar_hex n hn
      exact ⟨by simpa using hd, by simpa [hexValue] using hv⟩
    · rename_i hn
      obtain ⟨hd, hv⟩ := digitChar_hex (n % 16) (Nat.mod_lt _ (by decide))
      obtain ⟨ihd, ihv⟩ := ih (n / 16) (by omega)
      refine ⟨fun c hc => ?_, ?_⟩
      · rcases List.mem_append.1 hc with hc | hc
        · exact ihd c hc
        · simp only [List.mem_singleton] at hc
          exact hc ▸ hd
      · rw [hexValue_append_digit, ihv, hv]
        omega

theorem hexValue_replicate_zero (k : Nat) (ds : List Char) :
    hexValue (List.replicate k '0' ++ ds) = hexValue ds := by
  -- leading zeros leave the accumulated value at zero
  have hz : ∀ k, (List.replicate k '0').foldl (fun acc d => 16 * acc + hexDigitValue d) 0 = 0 := by
    intro k
    induction k with
    | zero => rfl
    | succ k ih => simpa [List.replicate_succ', List.foldl_append, hexDigitValue] using ih
  simp only [hexValue, List.foldl_append, hz]

/-- The hex digits of a code below `16 ^ width`, padded to `width`, are `width` hex digits
    whose value is the code. -/
theorem hexDigits_read {w n : Nat} (hw : 0 < w) (hn : n < 16 ^ w) :
    (hexDigits w n).length = w ∧ (hexDigits w n).all isHexDigit ∧ hexValue (hexDigits w n) = n := by
  have hlen := Nat.toDigits_length 16 n w hw hn
  obtain ⟨hd, hv⟩ := toDigits_hex n
  refine ⟨by simp [hexDigits]; omega, ?_, by rw [hexDigits, hexValue_replicate_zero, hv]⟩
  simp only [hexDigits, List.all_append, List.all_eq_true, Bool.and_eq_true]
  exact ⟨fun c hc => by simp [(List.eq_of_mem_replicate hc)]; decide, hd⟩

theorem readHexEscape_hexDigits {w : Nat} (hw : 0 < w) {c : Char} (hc : c.toNat < 16 ^ w)
    (rest : List Char) : readHexEscape w (hexDigits w c.toNat ++ rest) = some (c, rest) := by
  obtain ⟨hlen, hall, hval⟩ := hexDigits_read hw hc
  have htake : (hexDigits w c.toNat ++ rest).take w = hexDigits w c.toNat :=
    List.take_left' hlen
  have hdrop : (hexDigits w c.toNat ++ rest).drop w = rest := List.drop_left' hlen
  have hvalid : c.toNat.isValidChar := c.valid
  simp [readHexEscape, htake, hdrop, hlen, hall, hval, hvalid]

/-! ### Quoted literals read back -/

/-- A literal is quoted with `'` or `"`. -/
theorem quoteFor_cases (cs : List Char) : quoteFor cs = '\'' ∨ quoteFor cs = '"' := by
  unfold quoteFor
  split <;> simp

theorem toNat_lt_of_char (c : Char) : c.toNat < 0x110000 := by
  have hv := c.valid
  simp only [UInt32.isValidChar, Nat.isValidChar] at hv
  simp only [Char.toNat]
  omega

section Escape

variable {q : Char} (hq : q = '\'' ∨ q = '"')
include hq

/-- Each character, as a literal quoted with `q` writes it, reads back as itself. -/
theorem readUnit_escapeChar (c : Char) (rest : List Char) :
    readUnit (escapeChar q c ++ rest) = some (c, rest) := by
  unfold escapeChar
  split_ifs with hqb htab hlf hcr hctl hpr hx hu
  · -- the quote and the backslash stand behind a backslash
    have hc : c = '\\' ∨ c = '\'' ∨ c = '"' := by
      simp only [Bool.or_eq_true, decide_eq_true_eq] at hqb
      rcases hqb with rfl | rfl
      · rcases hq with rfl | rfl <;> simp
      · simp
    simp [readUnit, readEscape, hc]
  · subst htab
    simp [readUnit, readEscape]
  · subst hlf
    simp [readUnit, readEscape]
  · subst hcr
    simp [readUnit, readEscape]
  · -- the other controls, as two hex digits
    have hlt : c.toNat < 16 ^ 2 := by
      simp only [Bool.or_eq_true, decide_eq_true_eq] at hctl
      omega
    simp [readUnit, readEscape, readHexEscape_hexDigits (by decide) hlt]
  · have hb : c ≠ '\\' := fun e => by simp [e] at hqb
    simp [readUnit, hb, hpr]
  · have hlt : c.toNat < 16 ^ 2 := by omega
    simp [readUnit, readEscape, readHexEscape_hexDigits (by decide) hlt]
  · have hlt : c.toNat < 16 ^ 4 := by omega
    simp [readUnit, readEscape, readHexEscape_hexDigits (by decide) hlt]
  · have hlt : c.toNat < 16 ^ 8 := by have := toNat_lt_of_char c; omega
    simp [readUnit, readEscape, readHexEscape_hexDigits (by decide) hlt]

/-- A written character never opens with the quote: it is escaped, or it is not the quote. -/
theorem escapeChar_head (c : Char) : ∃ d tl, escapeChar q c = d :: tl ∧ d ≠ q := by
  have hbq : '\\' ≠ q := by rcases hq with rfl | rfl <;> decide
  unfold escapeChar
  split_ifs with hqb
  all_goals first
    | exact ⟨_, _, rfl, hbq⟩
    | exact ⟨c, [], rfl, fun e => by simp [e] at hqb⟩

theorem readBody_escapeChar (c : Char) (rest : List Char) :
    readBody q (escapeChar q c ++ rest) = (readBody q rest).map fun (v, after) => (c :: v, after) := by
  obtain ⟨d, tl, he, hd⟩ := escapeChar_head hq c
  have hu := readUnit_escapeChar hq c rest
  rw [he, List.cons_append] at hu
  rw [he, List.cons_append, readBody, if_neg hd]
  split
  · rename_i d' r h
    rw [hu] at h
    cases h
    rfl
  · rename_i h
    rw [hu] at h
    cases h

/-- The body of a literal quoted with `q` reads back as its text, up to the closing quote. -/
theorem readBody_quoted (cs rest : List Char) :
    readBody q (cs.flatMap (escapeChar q) ++ q :: rest) = some (cs, rest) := by
  induction cs with
  | nil => simp [readBody]
  | cons c cs ih =>
    rw [List.flatMap_cons, List.append_assoc, readBody_escapeChar hq, ih]
    rfl

end Escape

/-- A quoted literal reads back as its text, and the reader stops at its closing quote. -/
theorem readLiteral_quoteChars (cs rest : List Char) :
    readLiteral (quoteChars cs ++ rest) = some (cs, rest) := by
  have hq := quoteFor_cases cs
  simp only [quoteChars, List.cons_append, List.append_assoc, readLiteral, if_pos hq]
  exact readBody_quoted hq cs rest

theorem readLiteral_quote (s : String) (rest : List Char) :
    readLiteral ((quote s).toList ++ rest) = some (s.toList, rest) := by
  rw [quote, String.toList_ofList, readLiteral_quoteChars]

end BuildMigration.Text
