import BuildMigration.Proofs.Replacements
/-!
# The main class through a rewrite

An application's build file names its main class, and a migration writes the new main source
into the package of that class. The rewrite of the build file then renames the first `.App` of
the text to `.main`, wherever it stands. When it is the final piece of the main class, the
rewritten file names the same package with the Scala 3 entry point. But nothing ties the rename
to the main class: in `mainClass = "com.Apple.App"` the package is renamed instead
(`rewrite_renames_package`).

The rewrite can lose the main class in three ways, one per step, and each hypothesis of
`rewrite_mainClassName` excludes one:

* a `.App` that ends before the end of the main class is renamed in its place
  (`rewrite_renames_package`);
* a banner holding a quote can swallow the main class, or change where a coordinate ends
  (`rewrite_banner_swallows_mainClass`);
* the new coordinate is always quoted with `"`: a coordinate quoted with `'` and glued to the
  text around it can close or open another quoted name, and a coordinate can be the main class
  (`rewrite_coordinate_takes_mainClass_quote`).

The proof follows the rewrite step by step and carries `EntryReady` along: the leftmost main
class, with no `.App` ending before its name does.

* `EntryReady.replaceBanner`, `EntryReady.replaceCoordinate`, `EntryReady.rename`: the steps;
* `rewrite_mainClassName`: the main class, and so the package, after a rewrite.
-/

namespace BuildMigration

namespace Text.Found

/-- A match stands apart from the text around it: it opens with `"`, or a blank or an end of
    the text lies on each side of it. -/
def Bounded (f : Found) : Prop :=
  f.matched.head? = some '"' ∨
    (∀ c ∈ f.before.getLast?, isBlank c) ∧ (∀ c ∈ f.after.head?, isBlank c)

theorem Bounded.of_sameEdges {f g : Found} (h : f.Bounded) (he : f.SameEdges g) : g.Bounded := by
  obtain ⟨h1, h2, h3⟩ := he
  unfold Bounded
  rw [h1, h2, h3]
  exact h

end Text.Found

namespace BuildText

open Text

/-- The main class that the entry-point rename makes of `w`: a final `.App` becomes `.main`. -/
def modernClassName (w : List Char) : List Char :=
  if legacyEntry.isSuffixOf w then w.take (w.length - legacyEntry.length) ++ modernEntry else w

theorem legacyEntry_eq : legacyEntry = ['.', 'A', 'p', 'p'] := rfl

theorem modernEntry_eq : modernEntry = ['.', 'm', 'a', 'i', 'n'] := rfl

theorem modernClassName_legacy (u : List Char) :
    modernClassName (u ++ legacyEntry) = u ++ modernEntry := by
  simp [modernClassName, List.isSuffixOf_iff_suffix]

theorem modernClassName_modern (u : List Char) :
    modernClassName (u ++ modernEntry) = u ++ modernEntry := by
  have h : legacyEntry.isSuffixOf (u ++ modernEntry) = false := by
    rw [Bool.eq_false_iff]
    intro hs
    obtain ⟨z, hz⟩ := List.isSuffixOf_iff_suffix.1 hs
    have hl := congrArg List.getLast? hz
    rw [legacyEntry_eq, modernEntry_eq] at hl
    simp at hl
  simp [modernClassName, h]

/-- An entry name is a nonempty name followed by `.App` or by `.main`. -/
theorem isEntryName_cases {w : List Char} (h : isEntryName w = true) :
    (∃ u, u ≠ [] ∧ w = u ++ legacyEntry) ∨ (∃ u, u ≠ [] ∧ w = u ++ modernEntry) := by
  simp only [isEntryName, Bool.or_eq_true, Bool.and_eq_true, List.isSuffixOf_iff_suffix,
    decide_eq_true_eq] at h
  rcases h with ⟨⟨u, rfl⟩, hl⟩ | ⟨⟨u, rfl⟩, hl⟩
  · refine .inl ⟨u, ?_, rfl⟩
    rintro rfl
    simp at hl
  · refine .inr ⟨u, ?_, rfl⟩
    rintro rfl
    simp at hl

theorem isEntryName_modern {u : List Char} (hu : u ≠ []) : isEntryName (u ++ modernEntry) = true := by
  have hl : u.length ≠ 0 := fun h0 => hu (List.eq_nil_of_length_eq_zero h0)
  simp only [isEntryName, Bool.or_eq_true, Bool.and_eq_true, List.isSuffixOf_iff_suffix,
    decide_eq_true_eq]
  exact .inr ⟨List.suffix_append _ _, by simp [modernEntry_eq]; omega⟩

/-- The rename keeps every piece of the main class but the last. -/
theorem dropLast_splitOn_modernClassName {w : List Char} (hw : isEntryName w = true) :
    (splitOn '.' (modernClassName w)).dropLast = (splitOn '.' w).dropLast := by
  rcases isEntryName_cases hw with ⟨u, -, rfl⟩ | ⟨u, -, rfl⟩
  · rw [modernClassName_legacy, legacyEntry_eq, modernEntry_eq,
      splitOn_append_sep u (by decide), splitOn_append_sep u (by decide)]
    simp
  · rw [modernClassName_modern]

theorem mainClassName?_of_find? {s pre w post : List Char} {q : Char}
    (h : mainClass.find? s = some ⟨pre, q :: (w ++ [q]), post⟩) : mainClassName? s = some w := by
  simp [mainClassName?, h]

/-- The leftmost coordinate of a text, if any, starts after the main class that follows `pre`
    and has `n` characters, or ends before that main class and stands apart. -/
def CoordinateAside (s pre : List Char) (n : Nat) : Prop :=
  ∀ f, coordinate.find? s = some f →
    pre.length + n ≤ f.before.length ∨ f.before.length + f.matched.length ≤ pre.length ∧ f.Bounded

/-- The leftmost coordinate stays aside of the main class when the piece `x` after `a` is
    replaced by `y`, if every coordinate of the new text comes from one of the old text with the
    same edges. The main class, `n` characters after `pre`, lies wholly before the piece and
    stays there, or wholly after it and moves to `pre'` by the difference of the lengths. -/
theorem CoordinateAside.of_replace {s s' pre pre' a x y : List Char} {n : Nat} (hn : 0 < n)
    (hc : CoordinateAside s pre n)
    (hcoord : ∀ f', coordinate.find? s' = some f' →
      ∃ f, coordinate.find? s = some f ∧ f.SameEdges f' ∧ f.Follows a x y f')
    (hpos : (pre' = pre ∧ pre.length + n ≤ a.length) ∨
      (a.length + x.length ≤ pre.length ∧ pre'.length + x.length = pre.length + y.length)) :
    CoordinateAside s' pre' n := by
  intro f' hf'
  obtain ⟨f, hf, he, hfo⟩ := hcoord f' hf'
  unfold Found.Follows at hfo
  rcases hpos with ⟨rfl, hp⟩ | hp
  all_goals
    rcases hc f hf with hA | ⟨hB, hbd⟩
    · left
      omega
    · right
      exact ⟨by omega, hbd.of_sameEdges he⟩

/-- The leftmost main class of `s` is `w` quoted by `q`, right after `pre`, and no `.App` of `s`
    ends before `w` does. -/
structure EntryReady (s pre : List Char) (q : Char) (w post : List Char) : Prop where
  find : mainClass.find? s = some ⟨pre, q :: (w ++ [q]), post⟩
  noEntry : entry.find? (pre ++ q :: w.dropLast) = none

namespace EntryReady

variable {s pre w post : List Char} {q : Char} (h : EntryReady s pre q w post)
include h

theorem text : s = pre ++ (q :: (w ++ [q]) ++ post) := (Pattern.find?_eq_some_iff.1 h.find).1

theorem quoted : isQuote q ∧ (∀ c ∈ w, inClassName c) ∧ isEntryName w := by
  have hm := (Pattern.find?_eq_some_iff.1 h.find).2.1
  simp only [mainClass_matchAt, List.cons_append, List.append_assoc] at hm
  exact mainClassAt_quoted_iff.1 hm

theorem clear : mainClass.Clear pre (q :: (w ++ [q]) ++ post) :=
  (Pattern.find?_eq_some_iff.1 h.find).2.2

/-- A main class stays the leftmost one when the text after it changes. -/
theorem find_append_right (post' : List Char) :
    mainClass.find? (pre ++ (q :: (w ++ [q]) ++ post')) = some ⟨pre, q :: (w ++ [q]), post'⟩ :=
  mainClass_find?_append_right (h.text ▸ h.find)

/-- The rename step: the first `.App` is the final piece of the main class, or comes after it. -/
theorem rename :
    ∃ post', mainClass.find? (renameEntryPoint s) =
      some ⟨pre, q :: (modernClassName w ++ [q]), post'⟩ := by
  obtain ⟨hq, hw, he⟩ := h.quoted
  have hq' : inClassName q = false := inClassName_of_isQuote hq
  have hnone := Pattern.find?_eq_none_iff.1 h.noEntry
  rcases isEntryName_cases he with ⟨u, hu, rfl⟩ | ⟨u, hu, rfl⟩
  · -- the name ends with `.App`, and no `.App` ends before it: that one is the first
    have hcl : entry.Clear (pre ++ q :: u) (legacyEntry ++ q :: post) := by
      have h1 : entry.Clear ((pre ++ q :: u) ++ ['.', 'A', 'p']) [] := by
        simpa [legacyEntry_eq] using hnone
      rw [Pattern.clear_append] at h1
      simpa [legacyEntry_eq] using entry_clear_dot_congr.1 h1.1
    have hfind : entry.find? s = some ⟨pre ++ q :: u, legacyEntry, q :: post⟩ := by
      rw [h.text]
      simpa using Pattern.find?_of_clear hcl (entryAt_legacyEntry _)
    refine ⟨post, ?_⟩
    rw [renameEntryPoint, Pattern.replaceFirst_of_find? hfind, modernClassName_legacy]
    have hclass : ∀ c ∈ u ++ modernEntry, inClassName c = true := by
      intro c hc
      rcases List.mem_append.1 hc with hc | hc
      · exact hw c (List.mem_append_left _ hc)
      · exact List.all_eq_true.1 (by decide : modernEntry.all inClassName = true) c hc
    have hcl' : mainClass.Clear pre (q :: (u ++ modernEntry ++ [q]) ++ post) := by
      have := h.clear
      simp only [List.cons_append] at this ⊢
      exact (mainClass_clear_cons_congr hq').1 this
    have hm := mainClassAt_quoted hq hclass (isEntryName_modern hu) post
    simpa using Pattern.find?_of_clear hcl' (by simpa using hm)
  · -- the name ends with `.main`: the first `.App`, if any, comes after the main class
    have hcl : entry.Clear (pre ++ q :: (u ++ modernEntry)) (q :: post) := by
      have h1 : entry.Clear ((pre ++ q :: u) ++ ['.', 'm', 'a', 'i']) [] := by
        simpa [modernEntry_eq] using hnone
      rw [Pattern.clear_append] at h1
      have h2 : entry.Clear ((pre ++ q :: u) ++ modernEntry) (q :: post) := by
        rw [Pattern.clear_append]
        exact ⟨by simpa [modernEntry_eq] using entry_clear_dot_congr.1 h1.1,
          entry_clear_of_no_A (by decide) (by decide)⟩
      simpa using h2
    have hq'' : entry.Clear [q] post := entry_clear_of_no_dot fun hm => by
      rw [← List.mem_singleton.1 hm] at hq
      exact absurd hq (by decide)
    refine ⟨renameEntryPoint post, ?_⟩
    have htext : s = (pre ++ q :: (u ++ modernEntry)) ++ (q :: post) := by
      rw [h.text]
      simp
    rw [modernClassName_modern, renameEntryPoint, htext, Pattern.replaceFirst_append_of_clear hcl,
      show q :: post = [q] ++ post from rfl, Pattern.replaceFirst_append_of_clear hq'']
    simpa [renameEntryPoint] using h.find_append_right (renameEntryPoint post)

/-- The coordinate step: a coordinate after the main class leaves it alone; one before it that
    stands apart gives way to the new coordinate, which a scan from before it cannot tell from
    the old one, and in which no main class and no `.App` starts. -/
theorem replaceCoordinate {v : List Char} (hv : Version.isWellFormed v = true)
    (hc : CoordinateAside s pre (w.length + 2)) :
    ∃ pre' post', EntryReady (coordinate.replaceFirst (fun _ => coordinateTemplate v) s)
      pre' q w post' := by
  cases hf : coordinate.find? s with
  | none => exact ⟨pre, post, by rwa [coordinate.replaceFirst_of_find?_none _ hf]⟩
  | some f =>
    obtain ⟨hs, hmf, -⟩ := Pattern.find?_eq_some_iff.1 hf
    obtain ⟨q', run, hq', -, hfm, -⟩ := coordinateAt_eq_some_iff.1 hmf
    have htext : (pre ++ q :: (w ++ [q])) ++ post = f.before ++ (f.matched ++ f.after) := by
      rw [List.append_assoc, ← h.text, hs]
    rw [Pattern.replaceFirst_of_find? hf, List.append_assoc]
    rcases hc f hf with hafter | ⟨hbefore, hbound⟩
    · -- the coordinate comes after the main class
      obtain ⟨x, hx, -⟩ := exists_eq_append_of_length_le htext (by simp; omega)
      refine ⟨pre, x ++ (coordinateTemplate v ++ f.after), ?_, h.noEntry⟩
      rw [hx]
      simpa using h.find_append_right (x ++ (coordinateTemplate v ++ f.after))
    · -- the coordinate comes before the main class
      have htext' : (f.before ++ f.matched) ++ f.after = pre ++ (q :: (w ++ [q]) ++ post) := by
        rw [List.append_assoc, ← hs, h.text]
      obtain ⟨y, hpre, hy⟩ := exists_eq_append_of_length_le htext' (by simp; omega)
      obtain ⟨hq, -, -⟩ := h.quoted
      have hm := (Pattern.find?_eq_some_iff.1 h.find).2.1
      -- the scans that reach the coordinate from before it, and the one that its closing quote
      -- starts, see the same with the old and the new coordinate
      have hstart : mainClass.Clear f.before (f.matched ++ (y ++ (q :: (w ++ [q]) ++ post))) →
          mainClass.Clear f.before (coordinateTemplate v ++ (y ++ (q :: (w ++ [q]) ++ post))) := by
        rcases hbound with hdq | ⟨hlast, -⟩
        · have hq'' : q' = '"' := by simpa [hfm] using hdq
          subst hq''
          rw [hfm, coordinateTemplate_eq]
          exact (mainClass_clear_cons_congr (by decide)).1
        · intro hcl
          rcases List.eq_nil_or_concat f.before with hnil | ⟨b, d, hb⟩
          · rw [hnil]
            trivial
          · exact (mainClass_clear_of_getLast_blank hlast (by simp [hb])).1 hcl
      have hclose : mainClass.Clear f.matched (y ++ (q :: (w ++ [q]) ++ post)) →
          mainClass.Clear (coordinateTemplate v) (y ++ (q :: (w ++ [q]) ++ post)) := by
        intro hcl
        rw [mainClass_clear_coordinateTemplate hv]
        rcases hbound with hdq | ⟨-, hhead⟩
        · -- the old coordinate closed with the same quote, and no main class started there
          have hq'' : q' = '"' := by simpa [hfm] using hdq
          subst hq''
          rw [hfm, show '"' :: (coordinateLead ++ (run ++ ['"'])) =
            ('"' :: (coordinateLead ++ run)) ++ ['"'] by simp, Pattern.clear_append] at hcl
          simpa using hcl.2
        · -- a blank follows the coordinate
          rw [hy] at hhead
          cases y with
          | nil => exact mainClassAt_of_blank (hhead q (by simp))
          | cons d y => exact mainClassAt_of_blank (hhead d (by simp))
      refine ⟨f.before ++ (coordinateTemplate v ++ y), post, ⟨?_, ?_⟩⟩
      · have hcl := h.clear
        rw [hpre, List.append_assoc] at hcl
        have hcl' := Pattern.clear_replace hstart
          (hclose (by simp only [Pattern.clear_append, List.append_assoc] at hcl; exact hcl.2.1)) hcl
        rw [hy]
        simpa using Pattern.find?_of_clear hcl' hm
      · have hnone := Pattern.find?_eq_none_iff.1 h.noEntry
        rw [hpre, List.append_assoc, List.append_assoc] at hnone
        rw [Pattern.find?_eq_none_iff, List.append_assoc, List.append_assoc]
        refine Pattern.clear_replace ?_ (entry_clear_coordinateTemplate hv _) hnone
        rw [hfm, coordinateTemplate_eq]
        exact (entry_clear_quote_congr hq' (by decide)).1

/-- The banner step: a banner without quotes lies before or after the main class, and the new
    banner takes its place; the leftmost coordinate moves along with the text around it. -/
theorem replaceBanner {v : List Char} (hv : Version.isWellFormed v = true)
    (hb : ∀ f, banner.find? s = some f → ∀ c ∈ f.matched, isQuote c = false)
    (hc : CoordinateAside s pre (w.length + 2)) :
    ∃ pre' post', EntryReady (banner.replaceFirst (fun _ => bannerTemplate v) s) pre' q w post' ∧
      CoordinateAside (banner.replaceFirst (fun _ => bannerTemplate v) s) pre' (w.length + 2) := by
  cases hf : banner.find? s with
  | none =>
    rw [banner.replaceFirst_of_find?_none _ hf]
    exact ⟨pre, post, h, hc⟩
  | some g =>
    obtain ⟨hs, hm, -⟩ := Pattern.find?_eq_some_iff.1 hf
    have hx : BannerText g.matched := bannerText_of_bannerAt hm (hb g hf)
    have hy : BannerText (bannerTemplate v) := bannerText_bannerTemplate hv
    obtain ⟨hq, hw, -⟩ := h.quoted
    have hmc := (Pattern.find?_eq_some_iff.1 h.find).2.1
    rw [Pattern.replaceFirst_of_find? hf, List.append_assoc]
    -- every coordinate after the replacement comes from the one before it
    have hcoord : ∀ f', coordinate.find? (g.before ++ (bannerTemplate v ++ g.after)) = some f' →
        ∃ f, coordinate.find? s = some f ∧ f.SameEdges f' ∧
          f.Follows g.before g.matched (bannerTemplate v) f' := by
      intro f' hf'
      rw [hs]
      cases hfs : coordinate.find? (g.before ++ (g.matched ++ g.after)) with
      | none =>
        rw [coordinate_find?_replace_banner_none hx hy hfs] at hf'
        cases hf'
      | some f =>
        obtain ⟨f'', hf'', he, hfo⟩ := coordinate_find?_replace_banner hx hy hfs
        rw [hf''] at hf'
        cases hf'
        exact ⟨f, rfl, he, hfo⟩
    rcases bannerText_apart_mainClass hq hw hx (h.text.symm.trans hs) with
      ⟨mid, ha, -⟩ | ⟨mid, hpre, hafter⟩
    · -- the banner comes after the main class
      refine ⟨pre, mid ++ (bannerTemplate v ++ g.after), ⟨?_, h.noEntry⟩, ?_⟩
      · rw [ha]
        simpa using h.find_append_right (mid ++ (bannerTemplate v ++ g.after))
      · have hlen : g.before.length = pre.length + (w.length + 2) + mid.length := by
          simp [ha]
          omega
        exact hc.of_replace (by omega) hcoord (.inl ⟨rfl, by omega⟩)
    · -- the banner comes before the main class
      have hlen : pre.length = g.before.length + g.matched.length + mid.length := by
        simp [hpre]
        omega
      have hlen' : (g.before ++ (bannerTemplate v ++ mid)).length =
          g.before.length + (bannerTemplate v).length + mid.length := by
        simp
        omega
      refine ⟨g.before ++ (bannerTemplate v ++ mid), post, ⟨?_, ?_⟩, ?_⟩
      · have hcl := h.clear
        rw [hpre] at hcl
        have hcl' := Pattern.clear_replace (mainClass_clear_bannerText hx hy).1
          (mainClass_clear_of_no_quote hy.no_quote) hcl
        rw [hafter]
        simpa using Pattern.find?_of_clear hcl' hmc
      · have hnone := Pattern.find?_eq_none_iff.1 h.noEntry
        rw [hpre, List.append_assoc, List.append_assoc] at hnone
        rw [Pattern.find?_eq_none_iff, List.append_assoc, List.append_assoc]
        exact Pattern.clear_replace (entry_clear_bannerText hx hy).1
          (entry_clear_bannerTemplate hv _) hnone
      · exact hc.of_replace (by omega) hcoord (.inr ⟨by omega, by omega⟩)

end EntryReady

/-- Rewriting an application's build file renames its main class to the Scala 3 entry point and
    keeps its package, when no `.App` ends before the name of the main class does, the first
    banner holds no quote, and the first coordinate starts after the main class or ends before it
    and stands apart. -/
theorem rewrite_mainClassName {t pre w post : List Char} {q : Char} {v : String}
    (hv : Version.validate v = .ok v)
    (hfind : mainClass.find? t = some ⟨pre, q :: (w ++ [q]), post⟩)
    (hentry : entry.find? (pre ++ q :: w.dropLast) = none)
    (hbanner : ∀ f, banner.find? t = some f → ∀ c ∈ f.matched, isQuote c = false)
    (hcoord : ∀ f, coordinate.find? t = some f → pre.length + (w.length + 2) ≤ f.before.length ∨
      f.before.length + f.matched.length ≤ pre.length ∧ f.Bounded) :
    ∃ t', rewrite t v.toList false = .ok t' ∧ mainClassName? t' = some (modernClassName w) ∧
      packagePath t' = packagePath t := by
  have hwf := (Version.validate_eq_ok_iff.1 hv).1
  have h : EntryReady t pre q w post := ⟨hfind, hentry⟩
  -- the three steps of the rewrite, in their order
  obtain ⟨pre1, post1, h1, hc1⟩ := h.replaceBanner hwf hbanner hcoord
  obtain ⟨pre2, post2, h2⟩ := h1.replaceCoordinate hwf hc1
  obtain ⟨post3, h3⟩ := h2.rename
  have hname := mainClassName?_of_find? h3
  refine ⟨_, by rw [rewrite_of_isWellFormed hwf]; rfl, hname, ?_⟩
  simp only [packagePath, hname, mainClassName?_of_find? hfind,
    dropLast_splitOn_modernClassName h.quoted.2.2]

/-- A build file in the shape the tool expects: a banner, the library coordinate and the main
    class, in this order. -/
theorem rewrite_mainClassName_sbt :
    mainClass.find? "Use Scala 2.13 \"org.scala-lang:scala-library:2.13\" mainClass = \"a.App\"".toList =
        some ⟨"Use Scala 2.13 \"org.scala-lang:scala-library:2.13\" mainClass = ".toList,
          '"' :: ("a.App".toList ++ ['"']), []⟩ ∧
      ∃ t', rewrite "Use Scala 2.13 \"org.scala-lang:scala-library:2.13\" mainClass = \"a.App\"".toList "3.3.1".toList false = .ok t' ∧
        mainClassName? t' = some (modernClassName "a.App".toList) ∧
        packagePath t' = packagePath "Use Scala 2.13 \"org.scala-lang:scala-library:2.13\" mainClass = \"a.App\"".toList := by
  have hfind : mainClass.find? "Use Scala 2.13 \"org.scala-lang:scala-library:2.13\" mainClass = \"a.App\"".toList =
      some ⟨"Use Scala 2.13 \"org.scala-lang:scala-library:2.13\" mainClass = ".toList,
        '"' :: ("a.App".toList ++ ['"']), []⟩ := by decide
  have hbanner : banner.find? "Use Scala 2.13 \"org.scala-lang:scala-library:2.13\" mainClass = \"a.App\"".toList =
      some ⟨[], "Use Scala 2.13 ".toList,
        "\"org.scala-lang:scala-library:2.13\" mainClass = \"a.App\"".toList⟩ := by
    decide
  have hcoord : coordinate.find? "Use Scala 2.13 \"org.scala-lang:scala-library:2.13\" mainClass = \"a.App\"".toList =
      some ⟨"Use Scala 2.13 ".toList, "\"org.scala-lang:scala-library:2.13\"".toList,
        " mainClass = \"a.App\"".toList⟩ := by
    decide
  refine ⟨hfind, rewrite_mainClassName (Version.validate_eq_ok_iff.2 ⟨by decide, rfl⟩) hfind
    (by decide) ?_ ?_⟩
  · intro f hf c hc
    rw [hbanner] at hf
    cases hf
    simpa using List.all_eq_true.1
      (by decide : "Use Scala 2.13 ".toList.all (fun c => !isQuote c) = true) c hc
  · intro f hf
    rw [hcoord] at hf
    cases hf
    exact .inr ⟨by decide, .inl rfl⟩

/-- The rename hits the first `.App` of the text: here it lies in the package of the main class,
    which keeps its old entry point and moves to another package. -/
theorem rewrite_renames_package :
    mainClassName? "mainClass = \"com.Apple.App\"".toList = some "com.Apple.App".toList ∧
      rewrite "mainClass = \"com.Apple.App\"".toList "3.3.1".toList false =
        .ok "mainClass = \"com.mainle.App\"".toList ∧
      mainClassName? "mainClass = \"com.mainle.App\"".toList = some "com.mainle.App".toList := by
  refine ⟨by decide, ?_, by decide⟩
  rw [rewrite_of_isWellFormed (by decide)]
  exact congrArg Except.ok (by decide)

/-- A banner that holds the main class takes it away: the rewritten text has no main class left,
    so its package is lost. -/
theorem rewrite_banner_swallows_mainClass :
    let t := "Use Scala \"a.App\" ".toList
    let t1 := "Use Scala 3.3.1 ".toList
    mainClassName? t = some "a.App".toList ∧ rewrite t "3.3.1".toList false = .ok t1 ∧
      mainClassName? t1 = none := by
  intro t t1
  refine ⟨by decide, ?_, by decide⟩
  rw [rewrite_of_isWellFormed (by decide)]
  exact congrArg Except.ok (by decide)

/-- A coordinate quoted with `'` whose closing quote opens the main class: the new coordinate
    closes with `"`, so the main class loses its opening quote and the rewritten text has none. -/
theorem rewrite_coordinate_takes_mainClass_quote :
    let t := "'org.scala-lang:scala-library:2'a.App'".toList
    let t1 := "\"org.scala-lang:scala3-library_3:3.3.1\"a.main'".toList
    mainClassName? t = some "a.App".toList ∧ rewrite t "3.3.1".toList false = .ok t1 ∧
      mainClassName? t1 = none := by
  intro t t1
  refine ⟨by decide, ?_, by decide⟩
  rw [rewrite_of_isWellFormed (by decide)]
  exact congrArg Except.ok (by decide)

end BuildText

end BuildMigration
