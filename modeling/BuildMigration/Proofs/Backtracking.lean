import BuildMigration.Proofs.MainClassScan
/-!
# The scanners as regular expressions

Each pattern of a build text is a regular expression of the library, read by a backtracking
engine (`Text.Regex`), and each scanner of this library reads it without backtracking: it
takes the longest run of the pattern's class and looks at the character that stops it. The
two readings agree at every position, whatever character stands before it, so the leftmost
match that a scanner finds is the one that the engine's search finds.

The argument is the same for all four: the engine gives back characters of a run one at a
time, but what has to follow the run (a space, a quote, `.App` or `.main` and a quote) begins
with characters that the run's class takes and ends with one it does not, so only one count
of the run can be followed by it (`takeWhile_length_of_drop`). For the banner and the
coordinate that count is the whole run; for the main class it is the run less `.App` or
`.main`, and the two cannot both end a name, since they end in different letters.

* `bannerAt_eq_matchAt`, `coordinateAt_eq_matchAt`, `legacyReferenceAt_eq_matchAt`,
  `mainClassAt_eq_matchAt`: each scanner is the engine's match of its expression;
* `banner_find?_eq_search` and its three companions: each scanner's leftmost match is the
  engine's search.
-/

namespace BuildMigration.BuildText

open Text Regex

/-! ## One position -/

/-- The banner scanner is the backtracking match of `Use Scala \S+ `. -/
theorem bannerAt_eq_matchAt (prev : Option Char) (s : List Char) :
    bannerAt s = bannerRegex.matchAt prev s := by
  simp only [bannerAt, bannerRegex, matchAt, run_seq, run_lit, run_many]
  cases hs : stripPrefix? bannerLead s with
  | none => rfl
  | some rest =>
    have hsplit : s = bannerLead ++ rest := eq_append_of_stripPrefix? hs
    simp only [Option.bind_some, Cursor.rest_over]
    rw [firstDown_run_char (by decide : inBannerRun ' ' = false)]
    have hrest := List.takeWhile_append_dropWhile (p := inBannerRun) (l := rest)
    generalize rest.takeWhile inBannerRun = w at hrest ⊢
    generalize rest.dropWhile inBannerRun = d at hrest ⊢
    subst hrest hsplit
    cases w with
    | nil => simp
    | cons a w =>
      cases d with
      | nil => simp [stripPrefix?]
      | cons c after =>
        by_cases hc : c = ' '
        · subst hc
          have hs : bannerLead ++ (a :: w ++ ' ' :: after) =
              bannerLead ++ (a :: w) ++ [' '] ++ after := by simp
          simp only [stripPrefix?, ↓reduceIte, Option.bind_some, hs, take_sub_length]
          simp
        · -- the run stops at a character other than the space
          simp only [stripPrefix?, Ne.symm hc, ↓reduceIte, Option.bind_none, ite_self]
          split
          · rename_i heq
            exact absurd (List.cons.inj heq).1 hc
          · rfl

theorem coordinateAt_eq_matchAt (prev : Option Char) (s : List Char) :
    coordinateAt s = coordinateRegex.matchAt prev s := by
  cases s with
  | nil => rfl
  | cons q s =>
    have hc : Cursor.rest ⟨prev, q :: s, []⟩ = q :: s := rfl
    simp only [coordinateAt, coordinateRegex, matchAt, run_seq, run_group, run_char_cons _ _ _ hc]
    by_cases hq : isQuote q
    · -- the first group captures the opening quote
      have hquote : (q :: s).take ((q :: s).length - s.length) = [q] := by simp
      simp only [hq, if_true, run_lit, Cursor.rest_over, Cursor.groups_over, hquote]
      cases hs : stripPrefix? coordinateLead s with
      | none => rfl
      | some rest =>
        have hsplit : s = coordinateLead ++ rest := eq_append_of_stripPrefix? hs
        simp only [Option.bind_some, run_many, Cursor.rest_over, run_backref, Cursor.groups_over,
          List.lookup_cons_self]
        rw [firstDown_run_char (by simp [inCoordinateRun, hq] : inCoordinateRun q = false)]
        have hrest := List.takeWhile_append_dropWhile (p := inCoordinateRun) (l := rest)
        generalize rest.takeWhile inCoordinateRun = w at hrest ⊢
        generalize rest.dropWhile inCoordinateRun = d at hrest ⊢
        subst hrest hsplit
        cases d with
        | nil => simp [stripPrefix?]
        | cons c after =>
          by_cases hcq : c = q
          · subst hcq
            have hs : c :: (coordinateLead ++ (w ++ c :: after)) =
                c :: coordinateLead ++ w ++ [c] ++ after := by simp
            simp only [stripPrefix?, ↓reduceIte, Option.bind_some, hs, take_sub_length]
            simp
          · simp [stripPrefix?, hcq, Ne.symm hcq]
    · simp [hq]

theorem legacyReferenceAt_eq_matchAt (prev : Option Char) (s : List Char) :
    legacyReferenceAt s = legacyReferenceRegex.matchAt prev s := by
  simp only [legacyReferenceAt, legacyReferenceRegex, matchAt, run_seq, run_lit, run_boundary]
  cases hs : stripPrefix? legacyEntry s with
  | none => rfl
  | some rest =>
    have hsplit : s = legacyEntry ++ rest := eq_append_of_stripPrefix? hs
    -- `.App` ends in `p`, a word character, so the boundary after it is the end of a word
    have hlast : legacyEntry.getLast? = some 'p' := by decide
    have hp : isWordChar 'p' = true := by decide
    have hend : endsWord rest = (true != rest.head?.any isWordChar) := by
      cases rest <;> simp [endsWord]
    simp only [Option.bind_some, Cursor.prev_over, Cursor.rest_over, hlast, Option.some_or,
      Option.any_some, hp, ← hend]
    subst hsplit
    simp

/-- What the main-class expression asks after the name: `.App` or `.main`, then the quote. -/
theorem entryEnd_eq_some {α : Type} {q : Char} {g : List Char → Option α} {t : List Char}
    {a : α} :
    ((stripPrefix? ['.'] t).bind fun r =>
      ((stripPrefix? "App".toList r).bind fun r => (stripPrefix? [q] r).bind g).or
        ((stripPrefix? "main".toList r).bind fun r => (stripPrefix? [q] r).bind g)) = some a ↔
      ∃ u r, (u = ".App".toList ∨ u = ".main".toList) ∧ t = u ++ q :: r ∧ g r = some a := by
  constructor
  · intro h
    obtain ⟨r1, h1, h⟩ := Option.bind_eq_some_iff.1 h
    rcases Option.or_eq_some_iff.1 h with h | ⟨-, h⟩
    · obtain ⟨r2, h2, h⟩ := Option.bind_eq_some_iff.1 h
      obtain ⟨r3, h3, h⟩ := Option.bind_eq_some_iff.1 h
      refine ⟨".App".toList, r3, .inl rfl, ?_, h⟩
      rw [eq_append_of_stripPrefix? h1, eq_append_of_stripPrefix? h2, eq_append_of_stripPrefix? h3]
      rfl
    · obtain ⟨r2, h2, h⟩ := Option.bind_eq_some_iff.1 h
      obtain ⟨r3, h3, h⟩ := Option.bind_eq_some_iff.1 h
      refine ⟨".main".toList, r3, .inr rfl, ?_, h⟩
      rw [eq_append_of_stripPrefix? h1, eq_append_of_stripPrefix? h2, eq_append_of_stripPrefix? h3]
      rfl
  · rintro ⟨u, r, rfl | rfl, rfl, h⟩ <;> simp [stripPrefix?, h]

/-- `.App` and `.main` end in different characters: a name ends in at most one of them. -/
theorem entryEnd_eq_of_append_eq {x x' u u' : List Char}
    (hu : u = ".App".toList ∨ u = ".main".toList) (hu' : u' = ".App".toList ∨ u' = ".main".toList)
    (h : x ++ u = x' ++ u') : u = u' := by
  have hl := congrArg List.getLast? h
  rcases hu with rfl | rfl <;> rcases hu' with rfl | rfl
  · rfl
  · simp [List.getLast?_append] at hl
  · simp [List.getLast?_append] at hl
  · rfl

theorem entryEnd_inClassName {u : List Char} (hu : u = ".App".toList ∨ u = ".main".toList) :
    ∀ c ∈ u, inClassName c = true := by
  rcases hu with rfl | rfl
  · exact List.all_eq_true.1 (by decide : ".App".toList.all inClassName = true)
  · exact List.all_eq_true.1 (by decide : ".main".toList.all inClassName = true)

/-- A count of the run of name characters that `.App` or `.main` and the quote follow gives
    the scanner's main class. -/
theorem mainClassAt_of_drop {q : Char} {s u r : List Char} {j : Nat} (hq : isQuote q)
    (hj : 1 ≤ j) (hjn : j ≤ (s.takeWhile inClassName).length)
    (hu : u = ".App".toList ∨ u = ".main".toList) (h : s.drop j = u ++ q :: r) :
    mainClassAt (q :: s) = some (q :: (s.take j ++ u ++ [q]), r) := by
  have hname : ∀ c ∈ s.take j ++ u, inClassName c = true := by
    intro c hc
    rcases List.mem_append.1 hc with hc | hc
    · exact of_mem_take_of_le hjn c hc
    · exact entryEnd_inClassName hu c hc
  have hx : s.take j ≠ [] := by
    rw [Ne, List.take_eq_nil_iff]
    rintro (h0 | rfl)
    · omega
    · simp at hjn
      omega
  have hs : s = s.take j ++ u ++ q :: r := by
    rw [List.append_assoc, ← h, List.take_append_drop]
  have he : isEntryName (s.take j ++ u) := isEntryName_iff.2 ⟨s.take j, hx, by
    rcases hu with rfl | rfl
    · exact .inl rfl
    · exact .inr rfl⟩
  have hm := mainClassAt_quoted hq hname he r
  rwa [← hs] at hm

/-- In a name `x ++ u` that ends in `.App` or `.main` before the quote, the count of `x` is the
    only one that `.App` or `.main` and the quote follow. -/
theorem entryEnd_count_eq {x u u' r r' : List Char} {q : Char} {j : Nat}
    (hq : inClassName q = false) (hw : ∀ c ∈ x ++ u, inClassName c = true)
    (hu : u = ".App".toList ∨ u = ".main".toList) (hu' : u' = ".App".toList ∨ u' = ".main".toList)
    (hj : j ≤ (x ++ u).length) (h : (x ++ u ++ q :: r).drop j = u' ++ q :: r') :
    j = x.length := by
  rw [List.drop_append_of_le_length hj] at h
  -- from the count on, the name reads `u'` up to the quote
  have hrun : (x ++ u).drop j = u' := by
    have := congrArg (List.takeWhile inClassName) h
    rwa [takeWhile_append_cons_of_neg (fun c hc => hw c (List.mem_of_mem_drop hc)) hq,
      takeWhile_append_cons_of_neg (entryEnd_inClassName hu') hq] at this
  have hsame : u = u' := entryEnd_eq_of_append_eq hu hu'
    (show x ++ u = (x ++ u).take j ++ u' by rw [← hrun, List.take_append_drop])
  have hlen := congrArg List.length hrun
  subst hsame
  simp only [List.length_drop, List.length_append] at hlen hj
  omega

theorem mainClassAt_eq_matchAt (prev : Option Char) (s : List Char) :
    mainClassAt s = mainClassRegex.matchAt prev s := by
  cases s with
  | nil => rfl
  | cons q s =>
    have hc : Cursor.rest ⟨prev, q :: s, []⟩ = q :: s := rfl
    simp only [mainClassRegex, matchAt, run_seq, run_group, run_char_cons _ _ _ hc]
    by_cases hq : isQuote q
    · -- the first group captures the opening quote, and the backreference reads it again
      have hquote : (q :: s).take ((q :: s).length - s.length) = [q] := by simp
      simp only [hq, if_true, run_lit, run_many, run_alt, run_backref, Cursor.rest_over,
        Cursor.groups_over, hquote, List.lookup_cons, show (1 == 2) = false from rfl, BEq.rfl,
        Option.bind_some]
      cases h : mainClassAt (q :: s) with
      | some mr =>
        obtain ⟨m, r⟩ := mr
        obtain ⟨q', w, -, hw, he, hm, hs⟩ := mainClass_matchAt_eq h
        simp only [hm, List.cons_append, List.cons.injEq] at hs
        obtain ⟨rfl, hs⟩ := hs
        obtain ⟨x, hx, hxu⟩ := isEntryName_iff.1 he
        obtain ⟨u, hu, rfl⟩ : ∃ u, (u = ".App".toList ∨ u = ".main".toList) ∧ w = x ++ u := by
          rcases hxu with h | h
          · exact ⟨_, .inl rfl, h⟩
          · exact ⟨_, .inr rfl, h⟩
        have hq' := inClassName_of_isQuote hq
        have hs' : s = x ++ u ++ q :: r := by simpa using hs
        have hstop : s.takeWhile inClassName = x ++ u := by
          rw [hs', takeWhile_append_cons_of_neg hw hq']
        rw [hstop, firstDown_eq_of_unique (i := x.length) _ ?_,
          if_pos ⟨List.length_pos_iff.2 hx, by simp⟩]
        · refine (entryEnd_eq_some.2 ⟨u, r, hu, by simp [hs'], ?_⟩).symm
          rw [hm, show q :: s = q :: (x ++ u) ++ [q] ++ r by simp [hs'], take_sub_length]
        · -- counting down, only the count of `x` is followed by `.App` or `.main` and the quote
          intro j _ hj hne
          refine Option.eq_none_iff_forall_ne_some.2 fun a ha => hne ?_
          obtain ⟨u', r', hu', hdrop, -⟩ := entryEnd_eq_some.1 ha
          rw [hs'] at hdrop
          exact entryEnd_count_eq hq' hw hu hu' hj hdrop
      | none =>
        -- a count that `.App` or `.main` and the quote follow would be a match of the scanner
        refine (firstDown_eq_none fun j hj hjn => ?_).symm
        refine Option.eq_none_iff_forall_ne_some.2 fun a ha => ?_
        obtain ⟨u, r, hu, hdrop, -⟩ := entryEnd_eq_some.1 ha
        rw [mainClassAt_of_drop hq hj hjn hu hdrop] at h
        cases h
    · simp [mainClassAt, hq]

/-- The engine's run takes `a.App` whole and gives back `.App` for the rest of the expression. -/
example : mainClassRegex.matchAt none "'a.App' x".toList = some ("'a.App'".toList, " x".toList) := by
  decide

/-! ## Leftmost matches -/

theorem banner_find?_eq_search (prev : Option Char) (s : List Char) :
    banner.find? s = bannerRegex.search prev s :=
  Pattern.find?_eq_search banner bannerRegex bannerAt_eq_matchAt prev s

theorem coordinate_find?_eq_search (prev : Option Char) (s : List Char) :
    coordinate.find? s = coordinateRegex.search prev s :=
  Pattern.find?_eq_search coordinate coordinateRegex coordinateAt_eq_matchAt prev s

theorem legacyReference_find?_eq_search (prev : Option Char) (s : List Char) :
    legacyReference.find? s = legacyReferenceRegex.search prev s :=
  Pattern.find?_eq_search legacyReference legacyReferenceRegex legacyReferenceAt_eq_matchAt prev s

theorem mainClass_find?_eq_search (prev : Option Char) (s : List Char) :
    mainClass.find? s = mainClassRegex.search prev s :=
  Pattern.find?_eq_search mainClass mainClassRegex mainClassAt_eq_matchAt prev s

end BuildMigration.BuildText
