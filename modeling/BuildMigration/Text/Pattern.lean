/-!
# Patterns and their matches

A *pattern* recognises matches that start at the front of a text: given a text, it either
finds none there or returns the matched characters and the rest. Every match holds at least
one character, so the rest is shorter than the text.

Searching a text tries each position from the left and stops at the first that starts a
match (the leftmost match). Counting goes on after each match from the end of that match,
so the matches it counts do not overlap. Replacing puts a text in the place of the leftmost
match and keeps everything else.

* `Pattern.find?_text`: a match splits the text into what lies before it, the match, and
  what lies after it.
* `eq_append_of_stripPrefix?`: a text that a prefix is stripped from is that prefix and the
  rest.
* `replaceFirst_of_find?_none`: a text without a match is left as it is.
-/

namespace BuildMigration.Text

/-- The rest of `s` after the prefix `p`, if `s` starts with `p`. -/
def stripPrefix? : List Char → List Char → Option (List Char)
  | [], s => some s
  | _ :: _, [] => none
  | a :: p, b :: s => if a = b then stripPrefix? p s else none

theorem eq_append_of_stripPrefix? {p s r : List Char} (h : stripPrefix? p s = some r) :
    s = p ++ r := by
  induction p generalizing s with
  | nil => simp_all [stripPrefix?]
  | cons a p ih =>
    cases s with
    | nil => simp [stripPrefix?] at h
    | cons b s =>
      simp only [stripPrefix?] at h
      split at h
      · rename_i hab
        subst hab
        simp [ih h]
      · simp at h

theorem of_mem_takeWhile {p : Char → Bool} {l : List Char} {x : Char} (h : x ∈ l.takeWhile p) :
    p x = true := by
  induction l with
  | nil => simp at h
  | cons a l ih =>
    simp only [List.takeWhile_cons] at h
    split at h
    · rename_i ha
      rcases List.mem_cons.1 h with rfl | h
      · exact ha
      · exact ih h
    · simp at h

/-- Something that recognises matches at the front of a text. -/
structure Pattern where
  /-- The match at the front of the text, and the rest of the text after it. -/
  matchAt : List Char → Option (List Char × List Char)
  /-- A match is the front of the text. -/
  matchAt_eq : ∀ {s m r}, matchAt s = some (m, r) → s = m ++ r
  /-- A match is never empty. -/
  matchAt_ne_nil : ∀ {s m r}, matchAt s = some (m, r) → m ≠ []

/-- A match inside a text: the text before it, the match, and the text after it. -/
structure Found where
  /-- The text before the match. -/
  before : List Char
  /-- The matched text. -/
  matched : List Char
  /-- The text after the match. -/
  after : List Char
  deriving DecidableEq, Repr

namespace Pattern

variable (p : Pattern)

theorem rest_lt {s m r : List Char} (h : p.matchAt s = some (m, r)) : r.length < s.length := by
  have hs := p.matchAt_eq h
  have hm := p.matchAt_ne_nil h
  subst hs
  cases m with
  | nil => exact absurd rfl hm
  | cons c m => simp only [List.cons_append, List.length_cons, List.length_append]; omega

/-- The leftmost match in a text. -/
def find? : List Char → Option Found
  | [] => none
  | c :: cs =>
    match p.matchAt (c :: cs) with
    | some (m, r) => some ⟨[], m, r⟩
    | none => (find? cs).map fun f => { f with before := c :: f.before }

/-- The number of matches found from left to right, each search starting after the previous
    match. -/
def count (s : List Char) : Nat :=
  match s with
  | [] => 0
  | c :: cs =>
    match h : p.matchAt (c :: cs) with
    | some (_, r) =>
      have : r.length < cs.length + 1 := p.rest_lt h
      count r + 1
    | none => count cs
termination_by s.length

/-- The text with `f` of the leftmost match in place of that match. -/
def replaceFirst (f : List Char → List Char) (s : List Char) : List Char :=
  match p.find? s with
  | some m => m.before ++ f m.matched ++ m.after
  | none => s

theorem find?_text {s : List Char} {m : Found} (h : p.find? s = some m) :
    m.before ++ m.matched ++ m.after = s := by
  induction s generalizing m with
  | nil => simp [find?] at h
  | cons c cs ih =>
    simp only [find?] at h
    split at h
    · rename_i m' r hm
      simp only [Option.some.injEq] at h
      subst h
      simp [p.matchAt_eq hm]
    · obtain ⟨f, hf, rfl⟩ := Option.map_eq_some_iff.1 h
      simp [← ih hf]

theorem replaceFirst_of_find?_none (f : List Char → List Char) {s : List Char}
    (h : p.find? s = none) : p.replaceFirst f s = s := by
  simp [replaceFirst, h]

end Pattern

end BuildMigration.Text
