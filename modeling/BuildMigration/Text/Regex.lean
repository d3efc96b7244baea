import BuildMigration.Text.CharClass
import BuildMigration.Text.Pattern
/-!
# Backtracking regular expressions

The patterns of build files are regular expressions, and a regular expression engine reads
them by backtracking: it tries the ways of matching from left to right, an alternation left
first, a repetition longest first, and gives back what it took when the rest of the
expression fails. This module gives the constructs that the patterns use and that reading of
them.

* `lit`: a text, character by character;
* `char`: one character of a class, such as `["']`;
* `many`: a greedy repetition of a class with a least count, such as `[^"'\s]+` or `[^"'\n]*`;
  the engine takes every character of the class it can, then gives them back one at a time;
* `seq` and `alt`: one expression after another, and one or else another;
* `group` and `backref`: a captured group, and the text it captured matched again (`\1`);
* `boundary`: a word boundary (`\b`), where a word character stands on one side only.

A match is run in *continuation-passing* style: `Regex.run r c k` matches `r` at the cursor `c`
and hands each way of matching, in the engine's order, to the continuation `k`, which says
whether the rest of the expression matches from there; the first way that `k` accepts is the
answer. A search tries every position from the left, the end of the text included, and stops
at the first that starts a match (`Regex.search`).

* `firstDown_eq_of_unique`: when one count alone can lead to a match, trying the counts from
  the longest down finds that one;
* `takeWhile_length_of_drop`: the greedy argument: a run of a class followed by a character
  outside it ends exactly there; so a greedy run that one character outside its class must
  follow matches whole or not at all (`firstDown_run_char`);
* `Pattern.find?_eq_search`: a scanner that agrees with an expression at every position finds
  what a search finds.
-/

namespace BuildMigration.Text

/-- Regular expressions, with the constructs that the patterns of build files use. -/
inductive Regex where
  /-- The characters of a text, in order. -/
  | lit (text : List Char)
  /-- One character of a class. -/
  | char (cls : Char → Bool)
  /-- As many characters of a class as there are, at least `least` of them, given back one at
      a time when the rest fails. -/
  | many (cls : Char → Bool) (least : Nat)
  /-- One expression, then the other. -/
  | seq (first second : Regex)
  /-- The left expression, or else the right one. -/
  | alt (left right : Regex)
  /-- The expression, whose match is captured as group `n`. -/
  | group (n : Nat) (body : Regex)
  /-- The text that group `n` captured. -/
  | backref (n : Nat)
  /-- A word boundary. -/
  | boundary

/-- Where a match stands: the character before it, if any, the text still to match, and the
    groups captured so far, the latest first. -/
structure Cursor where
  /-- The character before the cursor. -/
  prev : Option Char
  /-- The text after the cursor. -/
  rest : List Char
  /-- The captured groups, by number. -/
  groups : List (Nat × List Char)

/-- The cursor moved over the text `m`, with `r` left. -/
def Cursor.over (c : Cursor) (m r : List Char) : Cursor :=
  { c with prev := m.getLast?.or c.prev, rest := r }

@[simp] theorem Cursor.rest_over (c : Cursor) (m r : List Char) : (c.over m r).rest = r :=
  rfl

@[simp] theorem Cursor.groups_over (c : Cursor) (m r : List Char) : (c.over m r).groups = c.groups :=
  rfl

@[simp] theorem Cursor.prev_over (c : Cursor) (m r : List Char) :
    (c.over m r).prev = m.getLast?.or c.prev :=
  rfl

/-- The first answer of `f` at the counts from `n` down to `least`. -/
def firstDown {α : Type} (least : Nat) (f : Nat → Option α) : Nat → Option α
  | 0 => if least = 0 then f 0 else none
  | n + 1 => if least ≤ n + 1 then (f (n + 1)).or (firstDown least f n) else none

namespace Regex

/-- Matches the expression at the cursor and hands each way of matching, in the engine's
    order, to the continuation; the first answer of the continuation is the answer. -/
def run {α : Type} : Regex → Cursor → (Cursor → Option α) → Option α
  | lit text, c, k =>
    match stripPrefix? text c.rest with
    | some r => k (c.over text r)
    | none => none
  | char cls, c, k =>
    match c.rest with
    | x :: r => if cls x then k (c.over [x] r) else none
    | [] => none
  | many cls least, c, k =>
    firstDown least (fun i => k (c.over (c.rest.take i) (c.rest.drop i)))
      (c.rest.takeWhile cls).length
  | seq first second, c, k => first.run c fun c' => second.run c' k
  | alt left right, c, k => (left.run c k).or (right.run c k)
  | group n body, c, k =>
    body.run c fun c' =>
      k { c' with groups := (n, c.rest.take (c.rest.length - c'.rest.length)) :: c'.groups }
  | backref n, c, k =>
    match c.groups.lookup n with
    | some text =>
      match stripPrefix? text c.rest with
      | some r => k (c.over text r)
      | none => none
    | none => none
  | boundary, c, k =>
    if c.prev.any isWordChar != c.rest.head?.any isWordChar then k c else none

/-- The match at the front of `s`, after the character `prev`: the matched text and the rest. -/
def matchAt (r : Regex) (prev : Option Char) (s : List Char) : Option (List Char × List Char) :=
  r.run ⟨prev, s, []⟩ fun c => some (s.take (s.length - c.rest.length), c.rest)

/-- The leftmost match in `s`, after the character `prev`: each position is tried from the
    left, the end of the text included. -/
def search (r : Regex) (prev : Option Char) : List Char → Option Found
  | [] => (r.matchAt prev []).map fun m => ⟨[], m.1, m.2⟩
  | x :: s =>
    match r.matchAt prev (x :: s) with
    | some m => some ⟨[], m.1, m.2⟩
    | none => (r.search (some x) s).map fun f => { f with before := x :: f.before }

/-! ## One equation per construct -/

section Equations

variable {α : Type} (c : Cursor) (k : Cursor → Option α)

theorem run_lit (text : List Char) :
    (lit text).run c k = (stripPrefix? text c.rest).bind fun r => k (c.over text r) := by
  simp only [run]
  cases stripPrefix? text c.rest <;> rfl

theorem run_char_cons (cls : Char → Bool) {x : Char} {r : List Char} (h : c.rest = x :: r) :
    (char cls).run c k = if cls x then k (c.over [x] r) else none := by
  simp only [run, h]

theorem run_many (cls : Char → Bool) (least : Nat) :
    (many cls least).run c k =
      firstDown least (fun i => k (c.over (c.rest.take i) (c.rest.drop i)))
        (c.rest.takeWhile cls).length :=
  rfl

theorem run_seq (first second : Regex) :
    (seq first second).run c k = first.run c fun c' => second.run c' k :=
  rfl

theorem run_alt (left right : Regex) :
    (alt left right).run c k = (left.run c k).or (right.run c k) :=
  rfl

theorem run_group (n : Nat) (body : Regex) :
    (group n body).run c k = body.run c fun c' =>
      k { c' with groups := (n, c.rest.take (c.rest.length - c'.rest.length)) :: c'.groups } :=
  rfl

theorem run_backref (n : Nat) :
    (backref n).run c k =
      (c.groups.lookup n).bind fun text => (stripPrefix? text c.rest).bind fun r => k (c.over text r) := by
  simp only [run]
  cases c.groups.lookup n with
  | none => rfl
  | some text =>
    dsimp only [Option.bind_some]
    cases stripPrefix? text c.rest <;> rfl

theorem run_boundary :
    boundary.run c k = if c.prev.any isWordChar != c.rest.head?.any isWordChar then k c else none :=
  rfl

end Equations

end Regex

/-! ## Counting down -/

section FirstDown

variable {α : Type} {least : Nat} {f : Nat → Option α}

/-- When no count from `least` to `n` but `i` can give an answer, trying the counts from `n`
    down to `least` gives the answer at `i`, if `i` is among them. -/
theorem firstDown_eq_of_unique {i : Nat} :
    ∀ n, (∀ j, least ≤ j → j ≤ n → j ≠ i → f j = none) →
      firstDown least f n = if least ≤ i ∧ i ≤ n then f i else none := by
  intro n
  induction n with
  | zero =>
    intro hf
    simp only [firstDown]
    by_cases hl : least = 0
    · rw [if_pos hl]
      by_cases hi : i = 0
      · subst hi
        simp [hl]
      · rw [hf 0 (by omega) (Nat.le_refl _) (Ne.symm hi), if_neg (by omega)]
    · rw [if_neg hl, if_neg (by omega)]
  | succ n ih =>
    intro hf
    simp only [firstDown]
    by_cases hl : least ≤ n + 1
    · rw [if_pos hl, ih fun j hj hjn hji => hf j hj (by omega) hji]
      by_cases hi : i = n + 1
      · -- the longest count is `i`: its answer comes first, and no shorter count answers
        subst hi
        rw [if_neg (by omega), Option.or_none, if_pos ⟨hl, Nat.le_refl _⟩]
      · -- the longest count gives no answer, so the answer comes from the shorter ones
        rw [hf (n + 1) hl (Nat.le_refl _) (Ne.symm hi), Option.none_or]
        by_cases hin : least ≤ i ∧ i ≤ n
        · rw [if_pos hin, if_pos ⟨hin.1, by omega⟩]
        · rw [if_neg hin, if_neg (by omega)]
    · rw [if_neg hl, if_neg (by omega)]

/-- When no count from `least` to `n` gives an answer, neither does trying them. -/
theorem firstDown_eq_none {n : Nat} (hf : ∀ j, least ≤ j → j ≤ n → f j = none) :
    firstDown least f n = none := by
  induction n with
  | zero =>
    simp only [firstDown]
    split
    · exact hf 0 (by omega) (Nat.le_refl _)
    · rfl
  | succ n ih =>
    simp only [firstDown]
    split
    · rename_i hl
      rw [hf (n + 1) hl (Nat.le_refl _), Option.none_or, ih fun j hj hjn => hf j hj (by omega)]
    · rfl

end FirstDown

/-! ## The greedy argument -/

/-- The characters before a count inside the run of a class are of the class. -/
theorem of_mem_take_of_le {cls : Char → Bool} {s : List Char} {i : Nat}
    (hi : i ≤ (s.takeWhile cls).length) : ∀ c ∈ s.take i, cls c = true := by
  intro c hc
  rw [← List.takeWhile_append_dropWhile (p := cls) (l := s), List.take_append_of_le_length hi]
    at hc
  exact of_mem_takeWhile (List.mem_of_mem_take hc)

/-- The run of a class in a text that goes on with a character outside it. -/
theorem takeWhile_append_cons_of_neg {cls : Char → Bool} {a b : List Char} {c : Char}
    (ha : ∀ x ∈ a, cls x = true) (hc : cls c = false) : (a ++ c :: b).takeWhile cls = a := by
  rw [List.takeWhile_append_of_pos ha, List.takeWhile_cons_of_neg (by simp [hc]), List.append_nil]

/-- A run of a class ends at the first character outside it: where the text, from a count
    inside the run on, reads characters of the class and then one outside it, the run is that
    long exactly. -/
theorem takeWhile_length_of_drop {cls : Char → Bool} {s u rest : List Char} {x : Char} {i : Nat}
    (hi : i ≤ (s.takeWhile cls).length) (hu : ∀ c ∈ u, cls c = true) (hx : cls x = false)
    (h : s.drop i = u ++ x :: rest) : (s.takeWhile cls).length = i + u.length := by
  have hs : s = s.take i ++ u ++ x :: rest := by rw [List.append_assoc, ← h, List.take_append_drop]
  have hrun : ∀ c ∈ s.take i ++ u, cls c = true := by
    intro c hc
    rcases List.mem_append.1 hc with hc | hc
    · exact of_mem_take_of_le hi c hc
    · exact hu c hc
  rw [hs, takeWhile_append_cons_of_neg hrun hx]
  simp only [List.length_append, List.length_take]
  -- the text goes on past the count, with `u` and `x`
  have hlen := congrArg List.length h
  simp only [List.length_drop, List.length_append, List.length_cons] at hlen
  omega

/-- Dropping the run of a class leaves what follows it. -/
theorem drop_length_takeWhile (p : Char → Bool) (l : List Char) :
    l.drop (l.takeWhile p).length = l.dropWhile p :=
  calc l.drop (l.takeWhile p).length
    _ = (l.takeWhile p ++ l.dropWhile p).drop (l.takeWhile p).length := by
      rw [List.takeWhile_append_dropWhile]
    _ = l.dropWhile p := List.drop_left

/-- The text that a match takes from the front of `s`, found from what it leaves. -/
theorem take_sub_length {m r : List Char} : (m ++ r).take ((m ++ r).length - r.length) = m := by
  simp

/-- A greedy run followed by one character outside its class: of all the counts, only the whole
    run can be followed by that character, so counting down finds the whole run. -/
theorem firstDown_run_char {α : Type} {cls : Char → Bool} {x : Char} (hx : cls x = false)
    (least : Nat) (s : List Char) (g : List Char → Option α) :
    firstDown least (fun i => (stripPrefix? [x] (s.drop i)).bind g) (s.takeWhile cls).length =
      if least ≤ (s.takeWhile cls).length then (stripPrefix? [x] (s.dropWhile cls)).bind g
      else none := by
  have hunique : ∀ j, least ≤ j → j ≤ (s.takeWhile cls).length →
      j ≠ (s.takeWhile cls).length → (stripPrefix? [x] (s.drop j)).bind g = none := by
    intro j _ hj hne
    cases hr : stripPrefix? [x] (s.drop j) with
    | none => rfl
    | some r =>
      have hd : s.drop j = [] ++ x :: r := by simpa using eq_append_of_stripPrefix? hr
      have hend := takeWhile_length_of_drop hj (by simp) hx hd
      exact absurd hend.symm (by simpa using hne)
  rw [firstDown_eq_of_unique _ hunique, drop_length_takeWhile]
  simp

/-! ## Searching -/

namespace Pattern

/-- A scanner that agrees with an expression at every position, whatever stands before it,
    finds what the expression's search finds. -/
theorem find?_eq_search (p : Pattern) (r : Regex) (h : ∀ prev s, p.matchAt s = r.matchAt prev s)
    (prev : Option Char) (s : List Char) : p.find? s = r.search prev s := by
  induction s generalizing prev with
  | nil =>
    -- a match is never empty, so there is none at the end of a text
    have hnil : p.matchAt [] = none := by
      cases hm : p.matchAt [] with
      | none => rfl
      | some mr =>
        obtain ⟨m, rest⟩ := mr
        have := p.matchAt_eq hm
        exact absurd (List.append_eq_nil_iff.1 this.symm).1 (p.matchAt_ne_nil hm)
    simp [find?, Regex.search, ← h prev [], hnil]
  | cons x s ih =>
    simp only [find?, Regex.search, ← h prev (x :: s), ih (some x)]
    cases p.matchAt (x :: s) <;> rfl

end Pattern

end BuildMigration.Text
