import BuildMigration.BuildText.Banner
import BuildMigration.BuildText.Coordinate
import BuildMigration.BuildText.EntryPoint
import BuildMigration.BuildText.MainClass
import BuildMigration.Proofs.Scan
/-!
# What each scanner sees

Each pattern of a build text looks at a bounded stretch of the text after the position it
starts at: a fixed lead text (`Use Scala `, `org.scala-lang:scala-library:`, `.App`), and then
the longest run of characters of some class, up to the character that stops it. Whether a
position starts a match therefore depends on the text behind it only through what the scan
reaches. The *stop* of a text for a class (`stopOf`) is the first character outside the
class.

For each scanner this module gives the matches it finds on texts of the expected form, and a
congruence: a prefix that is clear in front of one text is clear in front of another when
the scan cannot tell the two apart.

* `mainClass_clear_congr`: the main-class scan sees the run of name characters and its stop;
* `entry_clear_congr`: a `.App` that starts in the prefix sees at most three more characters;
* `coordinate_clear_congr`: a lead that starts in the prefix cannot reach into a text that opens
  with a character foreign to it, so only the stop counts.
-/

namespace BuildMigration

namespace Text

theorem stripPrefix?_eq_some_iff {p s r : List Char} : stripPrefix? p s = some r ↔ s = p ++ r := by
  refine ⟨eq_append_of_stripPrefix?, ?_⟩
  rintro rfl
  induction p with
  | nil => rfl
  | cons a p ih => simp [stripPrefix?, ih]

/-- A prefix cannot reach into a text that opens with a character foreign to it. -/
theorem stripPrefix?_append_of_not_mem {p u x : List Char} (hx : ∀ c ∈ x.head?, c ∉ p) :
    stripPrefix? p (u ++ x) = (stripPrefix? p u).map (· ++ x) := by
  induction p generalizing u with
  | nil => simp [stripPrefix?]
  | cons a p ih =>
    have hx' : ∀ c ∈ x.head?, c ∉ p := fun c hc hp => hx c hc (List.mem_cons_of_mem _ hp)
    cases u with
    | nil =>
      cases x with
      | nil => simp [stripPrefix?]
      | cons d x =>
        have hd : d ≠ a := fun e => hx d rfl (e ▸ List.mem_cons_self)
        simp [stripPrefix?, Ne.symm hd]
    | cons b u =>
      simp only [List.cons_append, stripPrefix?]
      split
      · exact ih hx'
      · rfl

/-- The character that stops the longest run of characters with `p` at the front of a text,
    if any does. -/
def stopOf (p : Char → Bool) (s : List Char) : Option Char := (s.dropWhile p).head?

theorem stopOf_append_congr {p : Char → Bool} {u x y : List Char} (h : stopOf p x = stopOf p y) :
    stopOf p (u ++ x) = stopOf p (u ++ y) := by
  unfold stopOf
  rw [List.dropWhile_append, List.dropWhile_append]
  split
  · exact h
  · rename_i hu
    cases hd : u.dropWhile p with
    | nil => simp [hd] at hu
    | cons d r => rfl

theorem takeWhile_append_congr {p : Char → Bool} {u x y : List Char}
    (h : x.takeWhile p = y.takeWhile p) : (u ++ x).takeWhile p = (u ++ y).takeWhile p := by
  simp only [List.takeWhile_append, h]

/-- Whether the run at the front of a text is empty depends only on its first character. -/
theorem takeWhile_append_eq_nil_congr {p : Char → Bool} {u x y : List Char}
    (h : x.takeWhile p = [] ↔ y.takeWhile p = []) :
    (u ++ x).takeWhile p = [] ↔ (u ++ y).takeWhile p = [] := by
  cases u with
  | nil => exact h
  | cons a u => by_cases ha : p a <;> simp [ha]

end Text

namespace BuildText

open Text

/-! ## The main class -/

@[simp] theorem mainClass_matchAt : mainClass.matchAt = mainClassAt := rfl

@[simp] theorem entry_matchAt : entry.matchAt = entryAt := rfl

@[simp] theorem coordinate_matchAt : coordinate.matchAt = coordinateAt := rfl

@[simp] theorem banner_matchAt : banner.matchAt = bannerAt := rfl

theorem inClassName_of_isQuote {q : Char} (hq : isQuote q) : inClassName q = false := by
  simp [inClassName, hq]

theorem isQuote_of_isBlank {d : Char} (hd : isBlank d) : isQuote d = false := by
  cases h : isQuote d
  · rfl
  · simp only [isQuote, Bool.or_eq_true, decide_eq_true_eq] at h
    rcases h with rfl | rfl <;> revert hd <;> decide

theorem mainClassAt_eq_none_iff {c : Char} {s : List Char} :
    mainClassAt (c :: s) = none ↔
      ¬ (isQuote c ∧ stopOf inClassName s = some c ∧ isEntryName (s.takeWhile inClassName)) := by
  simp only [mainClassAt, stopOf]
  cases hd : s.dropWhile inClassName with
  | nil => simp
  | cons c' after => cases isQuote c <;> simp

/-- A main class quoted by `q` is a match, whatever follows its closing quote. -/
theorem mainClassAt_quoted {q : Char} {w : List Char} (hq : isQuote q)
    (hw : ∀ c ∈ w, inClassName c) (he : isEntryName w) (r : List Char) :
    mainClassAt (q :: (w ++ q :: r)) = some (q :: (w ++ [q]), r) := by
  have hq' := inClassName_of_isQuote hq
  simp [mainClassAt, hq, List.dropWhile_append_of_pos hw, List.takeWhile_append_of_pos hw, hq', he]

theorem mainClassAt_quoted_iff {q : Char} {w r : List Char} :
    mainClassAt (q :: (w ++ q :: r)) = some (q :: (w ++ [q]), r) ↔
      isQuote q ∧ (∀ c ∈ w, inClassName c) ∧ isEntryName w := by
  refine ⟨fun h => ?_, fun ⟨hq, hw, he⟩ => mainClassAt_quoted hq hw he r⟩
  obtain ⟨q', run, hq, hrun, he, hm, -⟩ := mainClass_matchAt_eq h
  simp only [List.cons_append, List.cons.injEq] at hm
  obtain ⟨rfl, hm⟩ := hm
  obtain rfl := List.append_cancel_right hm
  exact ⟨hq, hrun, he⟩

theorem mainClass_clear_congr {b x y : List Char}
    (hrun : x.takeWhile inClassName = y.takeWhile inClassName)
    (hstop : stopOf inClassName x = stopOf inClassName y) :
    mainClass.Clear b x ↔ mainClass.Clear b y := by
  induction b with
  | nil => simp
  | cons c b ih =>
    simp only [Pattern.clear_cons, ih, mainClass_matchAt]
    rw [mainClassAt_eq_none_iff, mainClassAt_eq_none_iff, takeWhile_append_congr hrun,
      stopOf_append_congr hstop]

/-- A scan for a main class stops at a character that cannot stand in a name. -/
theorem mainClass_clear_cons_congr {b x y : List Char} {d : Char} (hd : inClassName d = false) :
    mainClass.Clear b (d :: x) ↔ mainClass.Clear b (d :: y) :=
  mainClass_clear_congr (by simp [hd]) (by simp [stopOf, hd])

/-- A blank after a quote leaves the quote without a name. -/
theorem mainClassAt_of_blank {q d : Char} {r : List Char} (hd : isBlank d) :
    mainClassAt (q :: d :: r) = none := by
  have hnd : inClassName d = false := by simp [inClassName, hd]
  rw [mainClassAt_eq_none_iff, List.takeWhile_cons_of_neg (by simp [hnd])]
  simp [isEntryName]

/-- No main class that starts in a text ending with a blank reaches past it. -/
theorem mainClass_clear_of_getLast_blank {b x y : List Char} (hb : ∀ c ∈ b.getLast?, isBlank c)
    (hne : b ≠ []) : mainClass.Clear b x ↔ mainClass.Clear b y := by
  obtain ⟨b, d, rfl⟩ := List.eq_nil_or_concat b |>.resolve_left hne
  rw [List.concat_eq_append] at hb ⊢
  have hd : isBlank d = true := hb d (by simp)
  have hnd : inClassName d = false := by simp [inClassName, hd]
  have hqd : isQuote d = false := isQuote_of_isBlank hd
  have hlast : ∀ z, mainClass.Clear [d] z := fun z => by simp [mainClassAt, hqd]
  rw [Pattern.clear_append, Pattern.clear_append, List.singleton_append, List.singleton_append]
  exact and_congr (mainClass_clear_cons_congr hnd) (iff_of_true (hlast x) (hlast y))

/-- The main class is kept when the text after it changes. -/
theorem mainClass_find?_append_right {pre w post post' : List Char} {q : Char}
    (h : mainClass.find? (pre ++ (q :: (w ++ [q]) ++ post)) = some ⟨pre, q :: (w ++ [q]), post⟩) :
    mainClass.find? (pre ++ (q :: (w ++ [q]) ++ post')) = some ⟨pre, q :: (w ++ [q]), post'⟩ := by
  obtain ⟨-, hm, hb⟩ := Pattern.find?_eq_some_iff.1 h
  simp only [mainClass_matchAt, List.cons_append, List.append_assoc] at hm
  obtain ⟨hq, hw, he⟩ := mainClassAt_quoted_iff.1 hm
  refine Pattern.find?_of_clear ?_ (by simpa using mainClassAt_quoted hq hw he post')
  simp only [List.cons_append] at hb ⊢
  exact (mainClass_clear_cons_congr (inClassName_of_isQuote hq)).1 hb

/-- A text without quotes starts no main class. -/
theorem mainClass_clear_of_no_quote {b rest : List Char} (h : ∀ c ∈ b, isQuote c = false) :
    mainClass.Clear b rest :=
  Pattern.clear_of_forall fun c hc s => by
    simp [mainClassAt, h c hc]

/-! ## References to `.App` -/

theorem entryAt_eq_none_iff {s : List Char} : entryAt s = none ↔ stripPrefix? legacyEntry s = none := by
  simp [entryAt]

/-- A `.App` that starts in a prefix reaches at most three characters into what follows, and
    none into a text that does not open with `A` or `p`. -/
theorem entry_clear_congr {b x y : List Char} (hx : ∀ c ∈ x.head?, c ∉ "App".toList)
    (hy : ∀ c ∈ y.head?, c ∉ "App".toList) : entry.Clear b x ↔ entry.Clear b y := by
  induction b with
  | nil => simp
  | cons c b ih =>
    simp only [Pattern.clear_cons, ih, entry_matchAt]
    have key : ∀ z, (∀ d ∈ z.head?, d ∉ "App".toList) →
        stripPrefix? legacyEntry (c :: (b ++ z)) = (stripPrefix? legacyEntry (c :: b)).map (· ++ z) := by
      intro z hz
      show stripPrefix? ('.' :: "App".toList) (c :: (b ++ z)) =
        (stripPrefix? ('.' :: "App".toList) (c :: b)).map (· ++ z)
      simp only [stripPrefix?]
      split
      · exact stripPrefix?_append_of_not_mem hz
      · rfl
    rw [entryAt_eq_none_iff, entryAt_eq_none_iff, key x hx, key y hy]
    simp

theorem entryAt_legacyEntry (r : List Char) : entryAt (legacyEntry ++ r) = some (legacyEntry, r) := by
  simp [entryAt, stripPrefix?_eq_some_iff.2 rfl]

/-- A text without `A` that does not end with a dot starts no `.App`: the `A` of a `.App` that
    starts in it would stand in it. -/
theorem entry_clear_of_no_A {b rest : List Char} (hA : 'A' ∉ b) (hlast : b.getLast? ≠ some '.') :
    entry.Clear b rest := by
  induction b with
  | nil => trivial
  | cons c b ih =>
    have hb : 'A' ∉ b := fun h => hA (List.mem_cons_of_mem _ h)
    refine ⟨?_, ih hb ?_⟩
    · show (stripPrefix? ['.', 'A', 'p', 'p'] (c :: (b ++ rest))).map _ = none
      cases b with
      | nil =>
        have hc : c ≠ '.' := fun e => hlast (by simp [e])
        simp [stripPrefix?, Ne.symm hc]
      | cons d b =>
        have hd : d ≠ 'A' := fun e => hA (by simp [e])
        by_cases hc : c = '.' <;> simp [stripPrefix?, hc, Ne.symm hd]
    · cases b with
      | nil => simp
      | cons d b => simpa using hlast

/-- A `.App` from before a dot reaches no further than it: the dot cannot be its `A` or `p`. -/
theorem entry_clear_dot_congr {b x y : List Char} :
    entry.Clear b ('.' :: x) ↔ entry.Clear b ('.' :: y) :=
  entry_clear_congr (by simp) (by simp)

/-- A `.App` from before a quote reaches no further than it. -/
theorem entry_clear_quote_congr {b x y : List Char} {c d : Char} (hc : isQuote c) (hd : isQuote d) :
    entry.Clear b (c :: x) ↔ entry.Clear b (d :: y) := by
  have hApp : ∀ e, isQuote e = true → e ∉ "App".toList := by
    intro e he
    simp only [isQuote, Bool.or_eq_true, decide_eq_true_eq] at he
    rcases he with rfl | rfl <;> decide
  exact entry_clear_congr (by simpa using hApp c hc) (by simpa using hApp d hd)

/-- A text without a dot starts no `.App`. -/
theorem entry_clear_of_no_dot {b rest : List Char} (h : '.' ∉ b) : entry.Clear b rest :=
  Pattern.clear_of_forall fun c hc s => by
    have hc' : c ≠ '.' := fun e => h (e ▸ hc)
    show (stripPrefix? ('.' :: "App".toList) (c :: s)).map _ = none
    simp [stripPrefix?, Ne.symm hc']

/-! ## The library coordinate -/

theorem coordinateAt_eq_none_iff {q : Char} {s : List Char} :
    coordinateAt (q :: s) = none ↔
      ¬ (isQuote q ∧ ∃ rest, stripPrefix? coordinateLead s = some rest ∧
        stopOf inCoordinateRun rest = some q) := by
  simp only [coordinateAt, stopOf]
  cases isQuote q
  · simp
  · cases stripPrefix? coordinateLead s with
    | none => simp
    | some rest =>
      cases hd : rest.dropWhile inCoordinateRun with
      | nil => simp [hd]
      | cons c after => simp [hd]

/-- A coordinate quoted by `q` is a match, whatever follows its closing quote. -/
theorem coordinateAt_quoted {q : Char} {run : List Char} (hq : isQuote q)
    (hrun : ∀ c ∈ run, inCoordinateRun c) (r : List Char) :
    coordinateAt (q :: (coordinateLead ++ (run ++ q :: r))) =
      some (q :: (coordinateLead ++ (run ++ [q])), r) := by
  have hq' : ¬ inCoordinateRun q = true := by simp [inCoordinateRun, hq]
  have hs : stripPrefix? coordinateLead (coordinateLead ++ (run ++ q :: r)) = some (run ++ q :: r) :=
    stripPrefix?_eq_some_iff.2 rfl
  simp only [coordinateAt, hq, if_true, List.append_assoc, hs, List.dropWhile_append_of_pos hrun,
    List.dropWhile_cons_of_neg hq', List.takeWhile_append_of_pos hrun,
    List.takeWhile_cons_of_neg hq', List.append_nil, List.cons_append]

theorem coordinate_clear_congr {b x y : List Char}
    (hx : ∀ c ∈ x.head?, c ∉ coordinateLead) (hy : ∀ c ∈ y.head?, c ∉ coordinateLead)
    (hstop : stopOf inCoordinateRun x = stopOf inCoordinateRun y) :
    coordinate.Clear b x ↔ coordinate.Clear b y := by
  induction b with
  | nil => simp
  | cons c b ih =>
    simp only [Pattern.clear_cons, ih, coordinate_matchAt]
    rw [coordinateAt_eq_none_iff, coordinateAt_eq_none_iff, stripPrefix?_append_of_not_mem hx,
      stripPrefix?_append_of_not_mem hy]
    cases stripPrefix? coordinateLead b with
    | none => simp
    | some r => simp [stopOf_append_congr hstop]

/-- A scan for a coordinate stops at a character that can neither continue its lead nor stand
    in its run. -/
theorem coordinate_clear_cons_congr {b x y : List Char} {d : Char}
    (hd : inCoordinateRun d = false) (hl : d ∉ coordinateLead) :
    coordinate.Clear b (d :: x) ↔ coordinate.Clear b (d :: y) :=
  coordinate_clear_congr (by simpa using hl) (by simpa using hl) (by simp [stopOf, hd])

theorem inCoordinateRun_of_isQuote {q : Char} (hq : isQuote q) : inCoordinateRun q = false := by
  simp [inCoordinateRun, hq]

theorem not_mem_coordinateLead_of_isQuote {q : Char} (hq : isQuote q) : q ∉ coordinateLead := by
  simp only [isQuote, Bool.or_eq_true, decide_eq_true_eq] at hq
  rcases hq with rfl | rfl <;> decide

/-- A coordinate is a quote, the lead, a run and the same quote. -/
theorem coordinateAt_eq_some_iff {s m r : List Char} :
    coordinateAt s = some (m, r) ↔ ∃ q run, isQuote q ∧ (∀ c ∈ run, inCoordinateRun c) ∧
      m = q :: (coordinateLead ++ (run ++ [q])) ∧ s = m ++ r := by
  constructor
  · intro h
    obtain ⟨q, run, hq, hrun, rfl, rfl⟩ := coordinate_matchAt_eq h
    exact ⟨q, run, hq, hrun, by simp, rfl⟩
  · rintro ⟨q, run, hq, hrun, rfl, rfl⟩
    simpa using coordinateAt_quoted hq hrun r

/-- The leftmost coordinate is kept when the text after it changes. -/
theorem coordinate_find?_append_right {pre m post post' : List Char}
    (h : coordinate.find? (pre ++ (m ++ post)) = some ⟨pre, m, post⟩) :
    coordinate.find? (pre ++ (m ++ post')) = some ⟨pre, m, post'⟩ := by
  obtain ⟨-, hm, hb⟩ := Pattern.find?_eq_some_iff.1 h
  obtain ⟨q, run, hq, hrun, rfl, -⟩ := coordinateAt_eq_some_iff.1 hm
  refine Pattern.find?_of_clear ?_ (coordinateAt_eq_some_iff.2 ⟨q, run, hq, hrun, rfl, rfl⟩)
  simp only [List.cons_append] at hb ⊢
  exact (coordinate_clear_cons_congr (inCoordinateRun_of_isQuote hq)
    (not_mem_coordinateLead_of_isQuote hq)).1 hb

/-- A text without quotes starts no coordinate. -/
theorem coordinate_clear_of_no_quote {b rest : List Char} (h : ∀ c ∈ b, isQuote c = false) :
    coordinate.Clear b rest :=
  Pattern.clear_of_forall fun c hc s => by
    simp [coordinateAt, h c hc]

/-! ## The version banner -/

theorem bannerAt_eq_none_iff {s : List Char} :
    bannerAt s = none ↔
      ¬ ∃ rest, stripPrefix? bannerLead s = some rest ∧ rest.takeWhile inBannerRun ≠ [] ∧
        stopOf inBannerRun rest = some ' ' := by
  unfold bannerAt stopOf
  cases hs : stripPrefix? bannerLead s with
  | none => simp
  | some rest =>
    simp only [Option.some.injEq, exists_eq_left']
    cases ht : rest.takeWhile inBannerRun with
    | nil => simp
    | cons d run =>
      cases hd : rest.dropWhile inBannerRun with
      | nil => simp
      | cons e after =>
        by_cases he : e = ' '
        · subst he
          simp
        · simp [he]

/-- A banner naming a nonempty run of non-blank characters is a match, whatever follows its
    closing space. -/
theorem bannerAt_lead {run : List Char} (hrun : run ≠ []) (hr : ∀ c ∈ run, inBannerRun c)
    (r : List Char) :
    bannerAt (bannerLead ++ (run ++ ' ' :: r)) = some (bannerLead ++ (run ++ [' ']), r) := by
  have hs : stripPrefix? bannerLead (bannerLead ++ (run ++ ' ' :: r)) = some (run ++ ' ' :: r) :=
    stripPrefix?_eq_some_iff.2 rfl
  have hsp : ¬ inBannerRun ' ' = true := by decide
  simp only [bannerAt, hs, List.dropWhile_append_of_pos hr,
    List.dropWhile_cons_of_neg hsp, List.takeWhile_append_of_pos hr,
    List.takeWhile_cons_of_neg hsp, List.append_nil]
  obtain ⟨d, run', rfl⟩ := List.exists_cons_of_ne_nil hrun
  rfl

end BuildText

end BuildMigration
