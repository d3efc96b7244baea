import BuildMigration.Proofs.Substitution
/-!
# Replacing a banner

A rewrite first puts the new banner in the place of the first banner. When that banner holds
no quote, the old banner and the new one are both *banner texts*: the words `Use Scala `, a
run of characters that are neither quotes nor blanks, and a space. Such a text cannot be told
from another one from the text before it: a main-class scan that reaches it stops at its
first space, a `.App` cannot reach into it (it opens with `U`), and the run of a coordinate
passes over all of it (it holds no quote and no line feed). No main class and no coordinate
starts inside it, since it has no quote.

So replacing one banner text by another carries the matches of the other patterns along:

* `bannerText_apart_mainClass`: a banner text and a main class do not overlap;
* `coordinate_find?_replace_banner`: the leftmost coordinate ends before the banner, starts
  after it, or holds it in its run; after the replacement the leftmost coordinate is the same
  one, with the same characters at its edges, and `Found.Follows` says where it moved;
* `mainClass_clear_bannerText`, `entry_clear_bannerText`, `coordinate_clear_bannerText`:
  the text before a banner cannot tell the two banners apart.
-/

namespace BuildMigration

namespace Text.Found

/-- Two matches have the same characters at their edges: the last one before them, their
    first one and the first one after them. -/
def SameEdges (f g : Found) : Prop :=
  g.before.getLast? = f.before.getLast? ∧ g.matched.head? = f.matched.head? ∧
    g.after.head? = f.after.head?

/-- Where the match `g` of `a ++ y ++ c` lies, for the match `f` of `a ++ x ++ c` it comes
    from: both end before the replaced piece, both start after it (moved by the difference of
    the lengths), or both start before it and end after it (grown by that difference). -/
def Follows (a x y : List Char) (f g : Found) : Prop :=
  (f.before.length + f.matched.length ≤ a.length ∧ g.before.length = f.before.length ∧
      g.matched.length = f.matched.length) ∨
    (a.length + x.length ≤ f.before.length ∧
      g.before.length + x.length = f.before.length + y.length ∧
      g.matched.length = f.matched.length) ∨
    (f.before.length < a.length ∧ a.length + x.length < f.before.length + f.matched.length ∧
      g.before.length = f.before.length ∧
      g.matched.length + x.length = f.matched.length + y.length)

end Text.Found

namespace Text

theorem stopOf_append_of_forall {p : Char → Bool} {x z : List Char} (h : ∀ c ∈ x, p c) :
    stopOf p (x ++ z) = stopOf p z := by
  simp [stopOf, List.dropWhile_append_of_pos h]

/-- The characters at the front of a text do not change when a nonempty piece in it is
    replaced by one with the same first character. -/
theorem head?_append_congr {u x y z : List Char} (h : x.head? = y.head?) (hx : x ≠ []) :
    (u ++ (x ++ z)).head? = (u ++ (y ++ z)).head? := by
  cases u with
  | cons d u => rfl
  | nil =>
    obtain ⟨d, x, rfl⟩ := List.exists_cons_of_ne_nil hx
    cases y with
    | nil => simp at h
    | cons e y => simpa using h

theorem getLast?_append_congr {u x y z : List Char} (h : x.getLast? = y.getLast?) (hx : x ≠ []) :
    (u ++ (x ++ z)).getLast? = (u ++ (y ++ z)).getLast? := by
  rcases List.eq_nil_or_concat z with rfl | ⟨z, d, rfl⟩
  · obtain ⟨x, d, rfl⟩ := List.eq_nil_or_concat x |>.resolve_left hx
    rcases List.eq_nil_or_concat y with rfl | ⟨y, e, rfl⟩
    · simp at h
    · simp only [List.concat_eq_append, List.getLast?_concat, Option.some.injEq] at h
      simp [← List.append_assoc, h]
  · simp [← List.append_assoc]

end Text

namespace BuildText

open Text

/-- A run of characters that are neither quotes nor blanks. -/
def PlainRun (r : List Char) : Prop := ∀ c ∈ r, isQuote c = false ∧ isBlank c = false

/-- A banner without quotes: the lead, a run of characters that are neither quotes nor blanks,
    and a space. -/
def BannerText (x : List Char) : Prop := ∃ r, PlainRun r ∧ x = bannerLead ++ (r ++ [' '])

theorem bannerLead_eq : bannerLead = ['U', 's', 'e', ' ', 'S', 'c', 'a', 'l', 'a', ' '] := rfl

/-- A banner found in a text is a banner text when it holds no quote. -/
theorem bannerText_of_bannerAt {s m r : List Char} (h : bannerAt s = some (m, r))
    (hq : ∀ c ∈ m, isQuote c = false) : BannerText m := by
  obtain ⟨run, -, hrun, rfl, -⟩ := banner_matchAt_eq h
  refine ⟨run, fun c hc => ⟨hq c (by simp [hc]), ?_⟩, by simp⟩
  simpa [inBannerRun] using hrun c hc

/-- The new banner of a well-formed version is a banner text. -/
theorem bannerText_bannerTemplate {v : List Char} (hv : Version.isWellFormed v = true) :
    BannerText (bannerTemplate v) :=
  ⟨v, fun c hc => ⟨Version.isQuote_of_isVersionChar (Version.isVersionChar_of_isWellFormed hv c hc),
    Version.isBlank_of_isVersionChar (Version.isVersionChar_of_isWellFormed hv c hc)⟩,
    by simp [bannerTemplate]⟩

namespace BannerText

variable {x : List Char} (hx : BannerText x)
include hx

theorem no_quote : ∀ c ∈ x, isQuote c = false := by
  obtain ⟨r, hr, rfl⟩ := hx
  intro c hc
  simp only [List.mem_append, List.mem_singleton] at hc
  rcases hc with hc | hc | rfl
  · simpa using List.all_eq_true.1 (by decide : bannerLead.all (fun c => !isQuote c) = true) c hc
  · exact (hr c hc).1
  · rfl

theorem inCoordinateRun : ∀ c ∈ x, BuildText.inCoordinateRun c := by
  obtain ⟨r, hr, rfl⟩ := hx
  intro c hc
  simp only [List.mem_append, List.mem_singleton] at hc
  rcases hc with hc | hc | rfl
  · exact List.all_eq_true.1 (by decide : bannerLead.all BuildText.inCoordinateRun = true) c hc
  · -- a line feed is blank, so the run holds none
    have hn : c ≠ '\n' := by
      rintro rfl
      exact absurd (hr _ hc).2 (by decide)
    simp [BuildText.inCoordinateRun, (hr c hc).1, hn]
  · decide

theorem head? : x.head? = some 'U' := by
  obtain ⟨r, -, rfl⟩ := hx
  rfl

theorem getLast? : x.getLast? = some ' ' := by
  obtain ⟨r, -, rfl⟩ := hx
  simp [← List.append_assoc]

theorem ne_nil : x ≠ [] := by
  obtain ⟨r, -, rfl⟩ := hx
  simp [bannerLead_eq]

theorem space_mem : ' ' ∈ x := by
  obtain ⟨r, -, rfl⟩ := hx
  simp

theorem takeWhile_inClassName (z : List Char) : (x ++ z).takeWhile inClassName = ['U', 's', 'e'] := by
  obtain ⟨r, -, rfl⟩ := hx
  have hU : inClassName 'U' = true := by decide
  have hs : inClassName 's' = true := by decide
  have he : inClassName 'e' = true := by decide
  have hsp : inClassName ' ' = false := by decide
  simp [bannerLead_eq, hU, hs, he, hsp]

theorem stopOf_inClassName (z : List Char) : stopOf inClassName (x ++ z) = some ' ' := by
  obtain ⟨r, -, rfl⟩ := hx
  have hU : inClassName 'U' = true := by decide
  have hs : inClassName 's' = true := by decide
  have he : inClassName 'e' = true := by decide
  have hsp : inClassName ' ' = false := by decide
  simp [stopOf, bannerLead_eq, hU, hs, he, hsp]

end BannerText

section Congruences

variable {a x y z : List Char} (hx : BannerText x) (hy : BannerText y)
include hx hy

/-- A main-class scan from before a banner stops at its first space. -/
theorem mainClass_clear_bannerText : mainClass.Clear a (x ++ z) ↔ mainClass.Clear a (y ++ z) :=
  mainClass_clear_congr (by rw [hx.takeWhile_inClassName, hy.takeWhile_inClassName])
    (by rw [hx.stopOf_inClassName, hy.stopOf_inClassName])

/-- A `.App` from before a banner cannot reach into it, which opens with `U`. -/
theorem entry_clear_bannerText : entry.Clear a (x ++ z) ↔ entry.Clear a (y ++ z) := by
  have hU : 'U' ∉ "App".toList := by decide
  refine entry_clear_congr ?_ ?_
  · intro c hc
    rw [List.head?_append, hx.head?] at hc
    simp only [Option.some_or, Option.mem_def, Option.some.injEq] at hc
    exact hc ▸ hU
  · intro c hc
    rw [List.head?_append, hy.head?] at hc
    simp only [Option.some_or, Option.mem_def, Option.some.injEq] at hc
    exact hc ▸ hU

/-- A coordinate from before a banner cannot have its lead reach into it, and its run passes
    over all of it. -/
theorem coordinate_clear_bannerText :
    coordinate.Clear a (x ++ z) ↔ coordinate.Clear a (y ++ z) := by
  have hU : 'U' ∉ coordinateLead := by decide
  refine coordinate_clear_congr ?_ ?_ ?_
  · intro c hc
    rw [List.head?_append, hx.head?] at hc
    simp only [Option.some_or, Option.mem_def, Option.some.injEq] at hc
    exact hc ▸ hU
  · intro c hc
    rw [List.head?_append, hy.head?] at hc
    simp only [Option.some_or, Option.mem_def, Option.some.injEq] at hc
    exact hc ▸ hU
  · rw [stopOf_append_of_forall hx.inCoordinateRun, stopOf_append_of_forall hy.inCoordinateRun]

end Congruences

/-! ## A banner and the other matches -/

/-- A banner text and a main class do not overlap: the banner would hold a quote of the main
    class, or the main class the space of the banner. -/
theorem bannerText_apart_mainClass {pre w post a x c : List Char} {q : Char} (hq : isQuote q)
    (hw : ∀ c ∈ w, inClassName c) (hx : BannerText x)
    (h : pre ++ (q :: (w ++ [q]) ++ post) = a ++ (x ++ c)) :
    (∃ mid, a = pre ++ (q :: (w ++ [q]) ++ mid) ∧ post = mid ++ (x ++ c)) ∨
      (∃ mid, pre = a ++ (x ++ mid) ∧ c = mid ++ (q :: (w ++ [q]) ++ post)) := by
  have hqx : q ∉ x := fun hm => absurd (hx.no_quote q hm) (by simp [hq])
  rcases pieces_cases h with h1 | h2 | ⟨u, v, -, hv, hm, -, hvx⟩ | ⟨u, v, hv, rfl, -, hvm⟩
  · exact .inl h1
  · exact .inr h2
  · -- the banner starts inside the main class, after its opening quote
    exfalso
    have hqv : q ∈ v := by
      obtain ⟨v, e, rfl⟩ := List.eq_nil_or_concat v |>.resolve_left hv
      have hl := congrArg List.getLast? hm
      rw [← List.cons_append, List.getLast?_concat, List.concat_eq_append,
        ← List.append_assoc, List.getLast?_concat] at hl
      simp [Option.some.inj hl]
    rcases List.append_eq_append_iff.1 hvx with ⟨z, rfl, -⟩ | ⟨z, rfl, -⟩
    · -- the banner holds the closing quote
      exact hqx (List.mem_append_left _ hqv)
    · -- the main class holds the space of the banner
      have hsp : ' ' ∈ q :: (w ++ [q]) := hm ▸ List.mem_append_right _
        (List.mem_append_left _ hx.space_mem)
      rcases List.mem_cons.1 hsp with h | hsp
      · rw [← h] at hq
        exact absurd hq (by decide)
      · rcases List.mem_append.1 hsp with hsp | hsp
        · exact absurd (hw ' ' hsp) (by decide)
        · rw [← List.mem_singleton.1 hsp] at hq
          exact absurd hq (by decide)
  · -- the main class starts inside the banner: the banner holds its opening quote
    exfalso
    obtain ⟨d, v, rfl⟩ := List.exists_cons_of_ne_nil hv
    simp only [List.cons_append, List.cons.injEq] at hvm
    exact hqx (hvm.1 ▸ by simp)

/-- A banner text that starts strictly inside a coordinate lies inside its run: it cannot
    start in the lead (which has no `U`) and cannot hold the closing quote. -/
theorem bannerText_inside_coordinate {q : Char} {run u v x c after : List Char} (hq : isQuote q)
    (hx : BannerText x) (hu : u ≠ []) (hv : v ≠ [])
    (hm : q :: (coordinateLead ++ (run ++ [q])) = u ++ v) (hvx : v ++ after = x ++ c) :
    ∃ r1 r2, run = r1 ++ (x ++ r2) ∧ u = q :: (coordinateLead ++ r1) ∧ c = r2 ++ q :: after := by
  have hqx : q ∉ x := fun hm => absurd (hx.no_quote q hm) (by simp [hq])
  -- the first character of `v` is the first of the banner, `U`
  have hvU : v.head? = some 'U' := by
    have := congrArg List.head? hvx
    rw [List.head?_append, List.head?_append, hx.head?] at this
    obtain ⟨e, v', rfl⟩ := List.exists_cons_of_ne_nil hv
    simpa using this
  obtain ⟨d, u', rfl⟩ := List.exists_cons_of_ne_nil hu
  simp only [List.cons_append, List.cons.injEq] at hm
  obtain ⟨rfl, hm⟩ := hm
  -- the banner does not start inside the lead
  obtain ⟨k, rfl, hk⟩ : ∃ k, u' = coordinateLead ++ k ∧ run ++ [q] = k ++ v := by
    rcases List.append_eq_append_iff.1 hm with ⟨k, rfl, hk⟩ | ⟨k, hlead, rfl⟩
    · exact ⟨k, rfl, hk⟩
    · cases k with
      | nil => exact ⟨[], by simpa using hlead.symm, by simp⟩
      | cons e k =>
        exfalso
        have he : e = 'U' := by simpa using hvU
        have : 'U' ∈ coordinateLead := by rw [hlead, ← he]; simp
        exact absurd this (by decide)
  -- the banner ends before the closing quote
  obtain ⟨k2, rfl, rfl⟩ : ∃ k2, run = k ++ k2 ∧ v = k2 ++ [q] := by
    rcases List.append_eq_append_iff.1 hk with ⟨z, rfl, hz⟩ | ⟨z, hrun, hz⟩
    · obtain rfl : z = [] := by
        cases z with
        | nil => rfl
        | cons e z =>
          simp only [List.cons_append, List.cons.injEq, List.nil_eq_append_iff] at hz
          exact absurd hz.2.2 hv
      exact ⟨[], by simp, by simpa using hz.symm⟩
    · exact ⟨z, hrun, hz⟩
  rcases List.append_eq_append_iff.1 (by simpa using hvx : k2 ++ q :: after = x ++ c) with
    ⟨z, rfl, hz⟩ | ⟨z, rfl, hz⟩
  · cases z with
    | nil => exact ⟨k, [], by simp, rfl, by simpa using hz.symm⟩
    | cons e z =>
      simp only [List.cons_append, List.cons.injEq] at hz
      exact absurd (by rw [hz.1]; simp) hqx
  · exact ⟨k, z, rfl, rfl, hz⟩

/-- Replacing a banner text by another carries the leftmost coordinate along. -/
theorem coordinate_find?_replace_banner {a x y c : List Char} (hx : BannerText x)
    (hy : BannerText y) {f : Found} (hf : coordinate.find? (a ++ (x ++ c)) = some f) :
    ∃ g, coordinate.find? (a ++ (y ++ c)) = some g ∧ f.SameEdges g ∧ f.Follows a x y g := by
  obtain ⟨hs, hm, hcl⟩ := Pattern.find?_eq_some_iff.1 hf
  obtain ⟨q, run, hq, hrun, hfm, -⟩ := coordinateAt_eq_some_iff.1 hm
  have hqx : q ∉ x := fun hm => absurd (hx.no_quote q hm) (by simp [hq])
  have hf' : coordinate.find? (f.before ++ (f.matched ++ f.after)) =
      some ⟨f.before, f.matched, f.after⟩ := hs ▸ hf
  rcases pieces_cases hs.symm with ⟨mid, ha, hfa⟩ | ⟨mid, hfb, hc⟩ |
    ⟨u, v, hu, hv, hmuv, ha, hvx⟩ | ⟨u, v, hv, rfl, -, hvm⟩
  · -- the coordinate ends before the banner
    refine ⟨⟨f.before, f.matched, mid ++ (y ++ c)⟩, ?_, ⟨rfl, rfl, ?_⟩, .inl ⟨?_, rfl, rfl⟩⟩
    · rw [ha]
      simpa using @coordinate_find?_append_right _ _ _ (mid ++ (y ++ c)) hf'
    · rw [hfa]
      exact (head?_append_congr (hx.head?.trans hy.head?.symm) hx.ne_nil).symm
    · simp [ha]
  · -- the coordinate starts after the banner
    refine ⟨⟨a ++ (y ++ mid), f.matched, f.after⟩, ?_, ⟨?_, rfl, rfl⟩, .inr (.inl ⟨?_, ?_, rfl⟩)⟩
    · rw [hc]
      have hcl' : coordinate.Clear (a ++ (y ++ mid)) (f.matched ++ f.after) := by
        rw [hfb, Pattern.clear_append, Pattern.clear_append] at hcl
        rw [Pattern.clear_append, Pattern.clear_append]
        refine ⟨?_, coordinate_clear_of_no_quote (hy.no_quote), hcl.2.2⟩
        simpa using (coordinate_clear_bannerText hx hy).1 (by simpa using hcl.1)
      simpa using Pattern.find?_of_clear hcl' hm
    · rw [hfb]
      exact getLast?_append_congr (hy.getLast?.trans hx.getLast?.symm) hy.ne_nil
    · simp [hfb]
    · simp [hfb]
      omega
  · -- the banner lies inside the run of the coordinate
    obtain ⟨r1, r2, rfl, rfl, rfl⟩ := bannerText_inside_coordinate hq hx hu hv (hfm ▸ hmuv) hvx
    have hrun' : ∀ c ∈ r1 ++ (y ++ r2), BuildText.inCoordinateRun c := by
      intro c hc
      simp only [List.mem_append] at hc
      rcases hc with hc | hc | hc
      · exact hrun c (by simp [hc])
      · exact hy.inCoordinateRun c hc
      · exact hrun c (by simp [hc])
    refine ⟨⟨f.before, q :: (coordinateLead ++ (r1 ++ (y ++ r2) ++ [q])), f.after⟩, ?_,
      ⟨rfl, by simp [hfm], rfl⟩, .inr (.inr ⟨?_, ?_, rfl, ?_⟩)⟩
    · have hcl' : coordinate.Clear f.before
          (q :: (coordinateLead ++ (r1 ++ (y ++ r2) ++ [q])) ++ f.after) := by
        rw [hfm] at hcl
        simpa using (coordinate_clear_cons_congr (inCoordinateRun_of_isQuote hq)
          (not_mem_coordinateLead_of_isQuote hq)).1 (by simpa using hcl)
      have hm' : coordinateAt (q :: (coordinateLead ++ (r1 ++ (y ++ r2) ++ [q])) ++ f.after) =
          some (q :: (coordinateLead ++ (r1 ++ (y ++ r2) ++ [q])), f.after) :=
        coordinateAt_eq_some_iff.2 ⟨q, r1 ++ (y ++ r2), hq, hrun', rfl, rfl⟩
      rw [ha]
      simpa using Pattern.find?_of_clear hcl' hm'
    · simp [ha]
    · simp [ha, hfm]
      omega
    · simp [hfm]
      omega
  · -- the coordinate would start inside the banner, which holds no quote
    exfalso
    obtain ⟨d, v, rfl⟩ := List.exists_cons_of_ne_nil hv
    rw [hfm] at hvm
    simp only [List.cons_append, List.cons.injEq] at hvm
    exact hqx (hvm.1 ▸ by simp)

/-- Replacing a banner text by another leaves a text without coordinates without them. -/
theorem coordinate_find?_replace_banner_none {a x y c : List Char} (hx : BannerText x)
    (hy : BannerText y) (h : coordinate.find? (a ++ (x ++ c)) = none) :
    coordinate.find? (a ++ (y ++ c)) = none := by
  simp only [Pattern.find?_eq_none_iff, Pattern.clear_append, List.append_nil] at h ⊢
  exact ⟨(coordinate_clear_bannerText hx hy).1 h.1,
    coordinate_clear_of_no_quote hy.no_quote, h.2.2⟩

end BuildText

end BuildMigration
