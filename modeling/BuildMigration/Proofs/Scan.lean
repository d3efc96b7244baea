import BuildMigration.Text.Pattern
/-!
# Where the leftmost match lies

A search (`Pattern.find?`) tries the positions of a text from the left and stops at the
first that starts a match. What it answers is therefore fixed by what the pattern sees at
each position up to the match. A text `b` followed by `rest` is *clear* of a pattern
(`Pattern.Clear b rest`) when no position of `b` starts a match in `b ++ rest`. Most facts
about rewriting a build text are then facts about which positions stay clear when a piece
of the text is replaced by another.

* `find?_eq_some_iff`: the leftmost match is a match with a clear text before it;
* `find?_append_of_clear`: a search passes over a clear prefix and goes on behind it;
* `replaceFirst_of_find?`: a replacement keeps what stands around the leftmost match;
* `replaceFirst_append_of_clear`: a replacement passes over a clear prefix;
* `pieces_cases`: two pieces of one text lie apart, one before the other, or overlap.
-/

namespace BuildMigration.Text

/-- A match `f` seen in a text that has `b` in front of it. -/
def Found.behind (b : List Char) (f : Found) : Found := { f with before := b ++ f.before }

@[simp] theorem Found.behind_nil : Found.behind [] = id := rfl

namespace Pattern

variable (p : Pattern)

/-- No position of `b` starts a match of the pattern, where `b` is followed by `rest`. -/
def Clear : List Char → List Char → Prop
  | [], _ => True
  | c :: b, rest => p.matchAt (c :: (b ++ rest)) = none ∧ Clear b rest

variable {p}

@[simp] theorem clear_nil (rest : List Char) : p.Clear [] rest := trivial

@[simp] theorem clear_cons {c : Char} {b rest : List Char} :
    p.Clear (c :: b) rest ↔ p.matchAt (c :: (b ++ rest)) = none ∧ p.Clear b rest := Iff.rfl

theorem clear_append {x y rest : List Char} :
    p.Clear (x ++ y) rest ↔ p.Clear x (y ++ rest) ∧ p.Clear y rest := by
  induction x with
  | nil => simp
  | cons c x ih => simp [ih, and_assoc]

/-- A text is clear when no position of it can start a match, whatever follows. -/
theorem clear_of_forall {b rest : List Char}
    (h : ∀ c ∈ b, ∀ s, p.matchAt (c :: s) = none) : p.Clear b rest := by
  induction b with
  | nil => trivial
  | cons c b ih =>
    exact ⟨h c List.mem_cons_self _, ih fun d hd => h d (List.mem_cons_of_mem _ hd)⟩

/-- Replacing a piece `x` of a clear text by `y` keeps it clear when the text before the piece
    cannot tell `x` from `y` and no match starts in `y`. -/
theorem clear_replace {a x y b rest : List Char}
    (hcongr : p.Clear a (x ++ (b ++ rest)) → p.Clear a (y ++ (b ++ rest)))
    (hy : p.Clear y (b ++ rest)) (h : p.Clear (a ++ (x ++ b)) rest) : p.Clear (a ++ (y ++ b)) rest := by
  simp only [clear_append, List.append_assoc] at h ⊢
  exact ⟨hcongr h.1, hy, h.2.2⟩

theorem find?_append_of_clear {b rest : List Char} (h : p.Clear b rest) :
    p.find? (b ++ rest) = (p.find? rest).map (Found.behind b) := by
  induction b with
  | nil => simp
  | cons c b ih =>
    obtain ⟨hc, hb⟩ := h
    rw [List.cons_append, find?, hc, ih hb, Option.map_map]
    rfl

theorem find?_eq_none_iff {s : List Char} : p.find? s = none ↔ p.Clear s [] := by
  induction s with
  | nil => simp [find?]
  | cons c s ih =>
    simp only [find?, clear_cons, List.append_nil, ← ih]
    split <;> simp_all

/-- A text holds no match exactly when a count finds none. -/
theorem count_eq_zero_iff {s : List Char} : p.count s = 0 ↔ p.find? s = none := by
  induction s with
  | nil => simp [count, find?]
  | cons c s ih =>
    rw [count, find?]
    split
    · rename_i m r hm
      simp [hm]
    · rename_i hm
      simp [hm, ih]

/-- A match with a clear text before it is the leftmost one. -/
theorem find?_of_clear {b m a : List Char} (hb : p.Clear b (m ++ a))
    (hm : p.matchAt (m ++ a) = some (m, a)) : p.find? (b ++ (m ++ a)) = some ⟨b, m, a⟩ := by
  rw [find?_append_of_clear hb]
  obtain ⟨c, m', rfl⟩ := List.exists_cons_of_ne_nil (p.matchAt_ne_nil hm)
  rw [List.cons_append] at hm ⊢
  simp [find?, hm, Found.behind]

theorem find?_eq_some_iff {s : List Char} {f : Found} :
    p.find? s = some f ↔ s = f.before ++ (f.matched ++ f.after) ∧
      p.matchAt (f.matched ++ f.after) = some (f.matched, f.after) ∧
      p.Clear f.before (f.matched ++ f.after) := by
  constructor
  · intro h
    induction s generalizing f with
    | nil => simp [find?] at h
    | cons c s ih =>
      simp only [find?] at h
      split at h
      · rename_i m r hm
        cases h
        have hs := p.matchAt_eq hm
        exact ⟨by simpa using hs, by rw [← hs]; exact hm, trivial⟩
      · rename_i hnone
        obtain ⟨g, hg, rfl⟩ := Option.map_eq_some_iff.1 h
        obtain ⟨rfl, h1, h2⟩ := ih hg
        exact ⟨rfl, h1, hnone, h2⟩
  · rintro ⟨rfl, hm, hb⟩
    exact find?_of_clear hb hm

theorem replaceFirst_of_find? {g : List Char → List Char} {s : List Char} {f : Found}
    (h : p.find? s = some f) : p.replaceFirst g s = f.before ++ g f.matched ++ f.after := by
  simp [replaceFirst, h]

/-- A replacement passes over a clear prefix. -/
theorem replaceFirst_append_of_clear {g : List Char → List Char} {b rest : List Char}
    (h : p.Clear b rest) : p.replaceFirst g (b ++ rest) = b ++ p.replaceFirst g rest := by
  unfold replaceFirst
  rw [find?_append_of_clear h]
  cases p.find? rest with
  | none => rfl
  | some f => simp [Found.behind]

/-! ## Positions

A position of a text is the number of characters before it, and what a pattern sees there is
the text from that position on, `s.drop j`. The leftmost match is the match at the least
position that starts one. -/

/-- The empty text starts no match: a match is a nonempty front of the text. -/
theorem matchAt_nil : p.matchAt [] = none := by
  cases h : p.matchAt [] with
  | none => rfl
  | some mr => exact absurd (List.append_eq_nil_iff.1 (p.matchAt_eq h).symm).1 (p.matchAt_ne_nil h)

theorem clear_iff_drop {b rest : List Char} :
    p.Clear b rest ↔ ∀ j < b.length, p.matchAt ((b ++ rest).drop j) = none := by
  induction b with
  | nil => simp
  | cons c b ih =>
    rw [clear_cons, ih]
    constructor
    · rintro ⟨h0, hb⟩ j hj
      cases j with
      | zero => exact h0
      | succ j => exact hb j (by simpa using hj)
    · intro h
      exact ⟨h 0 (by simp), fun j hj => h (j + 1) (by simpa using hj)⟩

/-- The leftmost match starts at the least position that starts a match. -/
theorem find?_eq_some_iff_drop {s : List Char} {f : Found} :
    p.find? s = some f ↔ s.take f.before.length = f.before ∧
      p.matchAt (s.drop f.before.length) = some (f.matched, f.after) ∧
      ∀ j < f.before.length, p.matchAt (s.drop j) = none := by
  rw [find?_eq_some_iff, clear_iff_drop]
  constructor
  · rintro ⟨rfl, hm, hb⟩
    exact ⟨List.take_left' rfl, by rwa [List.drop_left' rfl], hb⟩
  · rintro ⟨ht, hm, hb⟩
    have hs : s = f.before ++ (f.matched ++ f.after) := by
      rw [← p.matchAt_eq hm]
      conv => lhs; rw [← List.take_append_drop f.before.length s]
      rw [ht]
    exact ⟨hs, by rwa [hs, List.drop_left' rfl] at hm, by rwa [← hs]⟩

/-- A text holds no match exactly when no position of it starts one. -/
theorem find?_eq_none_iff_drop {s : List Char} :
    p.find? s = none ↔ ∀ j, p.matchAt (s.drop j) = none := by
  rw [find?_eq_none_iff, clear_iff_drop, List.append_nil]
  refine ⟨fun h j => ?_, fun h j _ => h j⟩
  by_cases hj : j < s.length
  · exact h j hj
  · rw [List.drop_eq_nil_of_le (by omega), matchAt_nil]

end Pattern

/-! ## Two pieces of one text -/

/-- Of two cuts of one text, the one that comes first is a prefix of the other. -/
theorem exists_eq_append_of_length_le {a b c d : List Char} (h : a ++ b = c ++ d)
    (hl : a.length ≤ c.length) : ∃ y, c = a ++ y ∧ b = y ++ d := by
  rcases List.append_eq_append_iff.1 h with ⟨y, hc, hb⟩ | ⟨y, ha, hd⟩
  · exact ⟨y, hc, hb⟩
  · -- the cut after `c` cannot lie strictly before the cut after `a`
    obtain rfl : y = [] := List.eq_nil_of_length_eq_zero (by simp only [ha, List.length_append] at hl; omega)
    exact ⟨[], by simpa using ha.symm, by simpa using hd.symm⟩

/-- Two pieces of one text: the first ends before the second starts, the second ends
    before the first starts, the second starts inside the first, or the first starts inside
    (or with) the second. -/
theorem pieces_cases {pre m post a x c : List Char} (h : pre ++ (m ++ post) = a ++ (x ++ c)) :
    (∃ mid, a = pre ++ (m ++ mid) ∧ post = mid ++ (x ++ c)) ∨
      (∃ mid, pre = a ++ (x ++ mid) ∧ c = mid ++ (m ++ post)) ∨
      (∃ u v, u ≠ [] ∧ v ≠ [] ∧ m = u ++ v ∧ a = pre ++ u ∧ v ++ post = x ++ c) ∨
      (∃ u v, v ≠ [] ∧ x = u ++ v ∧ pre = a ++ u ∧ v ++ c = m ++ post) := by
  rcases List.append_eq_append_iff.mp h with ⟨s, ha, hs⟩ | ⟨s, hpre, hs⟩
  · -- the second piece starts at or after the start of the first
    rcases List.append_eq_append_iff.mp hs with ⟨mid, rfl, hpost⟩ | ⟨v, rfl, hv⟩
    · exact .inl ⟨mid, ha, hpost⟩
    · rcases Decidable.em (v = []) with rfl | hv0
      · exact .inl ⟨[], by simpa using ha, by simpa using hv.symm⟩
      rcases Decidable.em (s = []) with rfl | hs0
      · -- both start at the same place
        rcases Decidable.em (x = []) with rfl | hx0
        · exact .inr (.inl ⟨[], by simpa using ha.symm, by simpa using hv⟩)
        · exact .inr (.inr (.inr ⟨[], x, hx0, rfl, by simpa using ha.symm, by simpa using hv⟩))
      · exact .inr (.inr (.inl ⟨s, v, hs0, hv0, rfl, ha, hv.symm⟩))
  · -- the first piece starts after the start of the second
    rcases List.append_eq_append_iff.mp hs with ⟨mid, rfl, hc⟩ | ⟨v, rfl, hv⟩
    · exact .inr (.inl ⟨mid, hpre, hc⟩)
    · rcases Decidable.em (v = []) with rfl | hv0
      · exact .inr (.inl ⟨[], by simpa using hpre, by simpa using hv.symm⟩)
      · exact .inr (.inr (.inr ⟨s, v, hv0, rfl, hpre, hv.symm⟩))

end BuildMigration.Text
