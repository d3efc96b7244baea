import BuildMigration.Text.Printable
/-!
# Quoted literals

The *quoted literal* of a text is how messages show a value that the user gave: the text
between quotes, with the characters that would make it ambiguous or invisible written as
escapes, so that the literal reads back as exactly that text.

The quote is `'`, unless the text holds a `'` and no `"`, in which case it is `"`. Inside, a
backslash and the chosen quote are preceded by a backslash; tab, line feed and carriage
return are written `\t`, `\n` and `\r`; the other ASCII controls and DEL are written
`\xhh`. From code point 128 on, a printable character stands as it is and any other is
written `\xhh`, `\uhhhh` or `\Uhhhhhhhh`, with the fewest of these widths that holds it.
Hex digits are lower case.

* `quoteChars_plain`: a text of printable characters with neither `'` nor a backslash is only
  wrapped in quotes.
-/

namespace BuildMigration.Text

/-- The quote that the literal of `cs` uses. -/
def quoteFor (cs : List Char) : Char :=
  if cs.contains '\'' && !cs.contains '"' then '"' else '\''

/-- The lower-case hex digits of `n`, padded with zeros on the left to `width`. -/
def hexDigits (width n : Nat) : List Char :=
  let ds := Nat.toDigits 16 n
  List.replicate (width - ds.length) '0' ++ ds

/-- How the character `c` is written inside a literal quoted with `q`. -/
def escapeChar (q c : Char) : List Char :=
  if c = q || c = '\\' then ['\\', c]
  else if c = '\t' then ['\\', 't']
  else if c = '\n' then ['\\', 'n']
  else if c = '\r' then ['\\', 'r']
  else if c.toNat < 32 || c.toNat = 127 then '\\' :: 'x' :: hexDigits 2 c.toNat
  else if isPrintable c then [c]
  else if c.toNat < 0x100 then '\\' :: 'x' :: hexDigits 2 c.toNat
  else if c.toNat < 0x10000 then '\\' :: 'u' :: hexDigits 4 c.toNat
  else '\\' :: 'U' :: hexDigits 8 c.toNat

/-- The quoted literal of the characters `cs`. -/
def quoteChars (cs : List Char) : List Char :=
  let q := quoteFor cs
  q :: (cs.flatMap (escapeChar q) ++ [q])

/-- The quoted literal of a text. -/
def quote (s : String) : String :=
  String.ofList (quoteChars s.toList)

/-- A text of printable characters with neither `'` nor a backslash is only wrapped in `'`: a
    message shows such a value as it is. -/
theorem quoteChars_plain {cs : List Char} (h : ∀ c ∈ cs, isPrintable c ∧ c ≠ '\'' ∧ c ≠ '\\') :
    quoteChars cs = '\'' :: (cs ++ ['\'']) := by
  have hquote : quoteFor cs = '\'' := by
    have hno : '\'' ∉ cs := fun hc => (h _ hc).2.1 rfl
    simp [quoteFor, hno]
  have hesc : ∀ c ∈ cs, escapeChar '\'' c = [c] := by
    intro c hc
    obtain ⟨hp, hq, hb⟩ := h c hc
    -- a printable character is no control character, so no escape applies to it
    have hctl : ¬ (c.toNat < 32 ∨ c.toNat = 127) := by
      by_cases hlt : c.toNat < 128
      · rw [isPrintable_of_lt hlt] at hp
        simp only [Bool.and_eq_true, decide_eq_true_eq] at hp
        omega
      · omega
    have hwhite : c ≠ '\t' ∧ c ≠ '\n' ∧ c ≠ '\r' := by
      refine ⟨?_, ?_, ?_⟩ <;> rintro rfl <;> exact hctl (.inl (by decide))
    simp [escapeChar, hq, hb, hwhite, hctl, hp]
  have hflat : cs.flatMap (escapeChar '\'') = cs :=
    calc cs.flatMap (escapeChar '\'')
      _ = (cs.map (escapeChar '\'')).flatten := rfl
      _ = (cs.map fun c => [c]).flatten := by rw [List.map_congr_left hesc]
      _ = cs := List.flatMap_singleton' cs
  simp only [quoteChars, hquote, hflat]

example : quote "3.3" = "'3.3'" := by decide +kernel

end BuildMigration.Text
