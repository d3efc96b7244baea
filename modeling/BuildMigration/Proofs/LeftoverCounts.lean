import BuildMigration.Proofs.Settled
/-!
# How many matches a rewrite leaves

The warnings of a run count the coordinates and the `.App` references of the rewritten text,
each by a scan from left to right that resumes after every match (`Pattern.count`). A rewrite
replaces one piece of the text at each of its three steps, so the counts follow from how a
count changes when one piece is replaced by another.

* `Pattern.count_replace`: a count is kept when the scan sees the two texts alike from every
  position before the piece (`Pattern.SeesAlike`) and counts as many from the piece on. The
  scan then runs along both texts in step: a match before the piece leaves two texts that
  again differ in the piece only, a match over the piece leaves the same text.
* `coordinate_seesAlike`: a coordinate cannot reach with its lead into a piece that opens
  with a character foreign to the lead, and its run passes over a piece of run characters.
* `legacyReference_seesAlike`: a `.App` cannot reach into a piece that opens with a
  character foreign to it, and the character after it decides alike whether it ends a word.

Each step of a rewrite then takes one from the count of its own pattern and keeps the other
count, when the pieces do not interact: the first banner holds no quote (else it can swallow
the opening quote of a coordinate) and no `.App`; the new coordinate, whose quotes are always
`"`, neither closes a coordinate opened before it nor opens one after it; and the first `.App`
ends a word (else the rename takes no reference away). So the warnings report one coordinate
and one reference fewer than the text had (`rewrite_leftover_counts`). Each of these
conditions is needed:

* a banner that holds the first coordinate, or a `.App`, takes it away with it
  (`rewrite_swallows_coordinate`, `rewrite_banner_swallows_entry`);
* the new coordinate's opening quote can close a coordinate opened before it, and its closing
  quote can open one after it (`rewrite_completes_coordinate`, `rewrite_opens_coordinate`);
* a coordinate that holds a `.App` takes it away (`rewrite_coordinate_swallows_entry`);
* a `.App` that goes on as a word takes the rename from the reference after it
  (`rewrite_skips_whole_entry`).
-/

namespace BuildMigration

namespace Text.Pattern

variable {p : Pattern}

/-! ## Counting matches -/

theorem count_cons_of_none {c : Char} {cs : List Char} (h : p.matchAt (c :: cs) = none) :
    p.count (c :: cs) = p.count cs := by
  rw [count]
  split
  · rename_i m r hm
    rw [h] at hm
    cases hm
  · rfl

theorem count_of_matchAt {s m r : List Char} (h : p.matchAt s = some (m, r)) :
    p.count s = p.count r + 1 := by
  cases s with
  | nil =>
    rw [matchAt_nil] at h
    cases h
  | cons c cs =>
    rw [count]
    split
    · rename_i m' r' hm
      rw [h] at hm
      cases hm
      rfl
    · rename_i hn
      rw [h] at hn
      cases hn

/-- A scan passes over a clear prefix. -/
theorem count_append_of_clear {b rest : List Char} (h : p.Clear b rest) :
    p.count (b ++ rest) = p.count rest := by
  induction b with
  | nil => rfl
  | cons c b ih => rw [List.cons_append, count_cons_of_none h.1, ih h.2]

/-- The leftmost match is counted, and the scan goes on after it. -/
theorem count_of_find? {s : List Char} {f : Found} (h : p.find? s = some f) :
    p.count s = p.count f.after + 1 := by
  obtain ⟨rfl, hm, hb⟩ := find?_eq_some_iff.1 h
  rw [count_append_of_clear hb, count_of_matchAt hm]

/-- From the front of `u`, the pattern sees `u ++ (x ++ c)` and `u ++ (y ++ c)` alike: it
    finds a match in neither; or one in each, after which the two texts differ again in `x`
    and `y` only; or one in each, after which they are the same. -/
def SeesAlike (p : Pattern) (x y c u : List Char) : Prop :=
  (p.matchAt (u ++ (x ++ c)) = none ∧ p.matchAt (u ++ (y ++ c)) = none) ∨
    (∃ m m' w, w <:+ u ∧ p.matchAt (u ++ (x ++ c)) = some (m, w ++ (x ++ c)) ∧
      p.matchAt (u ++ (y ++ c)) = some (m', w ++ (y ++ c))) ∨
    ∃ m m' r, p.matchAt (u ++ (x ++ c)) = some (m, r) ∧ p.matchAt (u ++ (y ++ c)) = some (m', r)

/-- Two texts that differ in one piece have as many matches when the pattern sees them alike
    from every position before the piece and counts as many from the piece on. -/
theorem count_replace {x y c : List Char} (a : List Char)
    (hrest : p.count (x ++ c) = p.count (y ++ c))
    (hsee : ∀ u, u ≠ [] → u <:+ a → SeesAlike p x y c u) :
    p.count (a ++ (x ++ c)) = p.count (a ++ (y ++ c)) := by
  -- the scan runs along both texts in step; induction on what is left before the piece
  suffices h : ∀ n u, u.length ≤ n → u <:+ a →
      p.count (u ++ (x ++ c)) = p.count (u ++ (y ++ c)) from
    h a.length a le_rfl (List.suffix_refl a)
  intro n
  induction n with
  | zero =>
    intro u hu _
    rw [List.eq_nil_of_length_eq_zero (Nat.le_zero.1 hu)]
    exact hrest
  | succ n ih =>
    intro u hu hua
    cases u with
    | nil => exact hrest
    | cons d u =>
      have hlen : u.length ≤ n := by simp only [List.length_cons] at hu; omega
      rcases hsee (d :: u) (List.cons_ne_nil d u) hua with
        ⟨hx, hy⟩ | ⟨m, m', w, hw, hx, hy⟩ | ⟨m, m', r, hx, hy⟩
      · -- no match here: both scans move on by one character
        rw [List.cons_append] at hx hy ⊢
        rw [List.cons_append, count_cons_of_none hx, count_cons_of_none hy]
        exact ih u hlen ((List.suffix_cons d u).trans hua)
      · -- a match before the piece: the scans resume before it
        have hlt := p.rest_lt hx
        simp only [List.length_append, List.length_cons] at hlt
        rw [count_of_matchAt hx, count_of_matchAt hy,
          ih w (by omega) (hw.trans hua)]
      · rw [count_of_matchAt hx, count_of_matchAt hy]

end Text.Pattern

namespace BuildText

open Text

/-! ## What the scans see -/

/-- A coordinate from before a piece cannot reach into it with its lead, when the piece opens
    with a character foreign to the lead, and its run passes over all of a piece of run
    characters: it sees two such pieces alike. -/
theorem coordinate_seesAlike {x y c : List Char}
    (hx : ∀ d ∈ (x ++ c).head?, d ∉ coordinateLead) (hy : ∀ d ∈ (y ++ c).head?, d ∉ coordinateLead)
    (hxr : ∀ d ∈ x, inCoordinateRun d) (hyr : ∀ d ∈ y, inCoordinateRun d) (q : Char)
    (u : List Char) : coordinate.SeesAlike x y c (q :: u) := by
  unfold Pattern.SeesAlike
  simp only [coordinate_matchAt, List.cons_append]
  by_cases hq : isQuote q
  swap
  · exact .inl ⟨by simp [coordinateAt, hq], by simp [coordinateAt, hq]⟩
  simp only [coordinateAt, hq, if_true, stripPrefix?_append_of_not_mem hx,
    stripPrefix?_append_of_not_mem hy]
  cases hs : stripPrefix? coordinateLead u with
  | none => exact .inl ⟨rfl, rfl⟩
  | some rest =>
    have hrest : rest <:+ q :: u := by
      rw [eq_append_of_stripPrefix? hs]
      exact (List.suffix_append _ _).trans (List.suffix_cons q _)
    simp only [Option.map_some]
    cases hd : rest.dropWhile inCoordinateRun with
    | nil =>
      -- the run passes over the rest of the lead's text and over the piece
      have hall := List.dropWhile_eq_nil_iff.1 hd
      have hdx : (rest ++ (x ++ c)).dropWhile inCoordinateRun = c.dropWhile inCoordinateRun := by
        rw [List.dropWhile_append_of_pos hall, List.dropWhile_append_of_pos hxr]
      have hdy : (rest ++ (y ++ c)).dropWhile inCoordinateRun = c.dropWhile inCoordinateRun := by
        rw [List.dropWhile_append_of_pos hall, List.dropWhile_append_of_pos hyr]
      rw [hdx, hdy]
      cases c.dropWhile inCoordinateRun with
      | nil => exact .inl ⟨rfl, rfl⟩
      | cons e after =>
        dsimp only
        by_cases he : e = q
        · rw [if_pos he, if_pos he]
          exact .inr (.inr ⟨_, _, after, rfl, rfl⟩)
        · rw [if_neg he, if_neg he]
          exact .inl ⟨rfl, rfl⟩
    | cons e after =>
      -- the run stops before the piece
      have hdx : (rest ++ (x ++ c)).dropWhile inCoordinateRun = e :: (after ++ (x ++ c)) := by
        rw [List.dropWhile_append, hd]
        rfl
      have hdy : (rest ++ (y ++ c)).dropWhile inCoordinateRun = e :: (after ++ (y ++ c)) := by
        rw [List.dropWhile_append, hd]
        rfl
      have hw : after <:+ q :: u :=
        (List.suffix_cons e after).trans (hd ▸ (List.dropWhile_suffix _).trans hrest)
      rw [hdx, hdy]
      dsimp only
      by_cases he : e = q
      · rw [if_pos he, if_pos he]
        exact .inr (.inl ⟨_, _, after, hw, rfl, rfl⟩)
      · rw [if_neg he, if_neg he]
        exact .inl ⟨rfl, rfl⟩

/-- A `.App` from before a piece cannot reach into it, when the piece opens with a character
    foreign to `.App`, and the first character of the piece decides alike whether a `.App` just
    before it ends a word. -/
theorem legacyReference_seesAlike {x y c : List Char}
    (hx : ∀ d ∈ (x ++ c).head?, d ∉ legacyEntry) (hy : ∀ d ∈ (y ++ c).head?, d ∉ legacyEntry)
    (hw : endsWord (x ++ c) = endsWord (y ++ c)) (u : List Char) :
    legacyReference.SeesAlike x y c u := by
  unfold Pattern.SeesAlike
  simp only [legacyReference, legacyReferenceAt, stripPrefix?_append_of_not_mem hx,
    stripPrefix?_append_of_not_mem hy]
  cases hs : stripPrefix? legacyEntry u with
  | none => exact .inl ⟨rfl, rfl⟩
  | some w =>
    have hwu : w <:+ u := by
      rw [eq_append_of_stripPrefix? hs]
      exact List.suffix_append _ _
    -- whether the `.App` ends a word is read at the same character in both texts
    have hend : endsWord (w ++ (x ++ c)) = endsWord (w ++ (y ++ c)) := by
      cases w with
      | nil => exact hw
      | cons d w => rfl
    simp only [Option.map_some]
    cases he : endsWord (w ++ (x ++ c))
    · rw [← hend, he]
      exact .inl ⟨rfl, rfl⟩
    · rw [← hend, he]
      exact .inr (.inl ⟨_, _, w, hwu, rfl, rfl⟩)

/-! ## Pieces that no scan enters -/

theorem head?_append_not_mem {x l : List Char} {e : Char} (h : x.head? = some e) (he : e ∉ l)
    (c : List Char) : ∀ d ∈ (x ++ c).head?, d ∉ l := by
  rw [List.head?_append, h, Option.some_or]
  rintro d ⟨⟩
  exact he

theorem isQuote_of_inCoordinateRun {c : Char} (h : inCoordinateRun c) : isQuote c = false := by
  simp only [inCoordinateRun, Bool.and_eq_true, Bool.not_eq_true'] at h
  exact h.1

/-- A text that starts no `.App` starts no `.App` reference. -/
theorem legacyReference_clear_of_entry {b rest : List Char} (h : entry.Clear b rest) :
    legacyReference.Clear b rest := by
  rw [Pattern.clear_iff_drop] at h ⊢
  exact fun j hj => legacyReferenceAt_eq_none_of_entryAt (h j hj)

/-- A text without `.App` that ends with a character foreign to `.App` starts none, whatever
    follows it. -/
theorem entry_clear_of_getLast? {x rest : List Char} {d : Char} (h : entry.find? x = none)
    (hl : x.getLast? = some d) (hd : d ∉ legacyEntry) : entry.Clear x rest := by
  obtain ⟨x, rfl⟩ : ∃ x', x = x' ++ [d] := by
    rcases List.eq_nil_or_concat x with rfl | ⟨x', e, rfl⟩
    · cases hl
    · rw [List.concat_eq_append, List.getLast?_concat, Option.some.injEq] at hl
      exact ⟨x', by rw [hl, List.concat_eq_append]⟩
  have hdApp : ∀ r, ∀ c ∈ ([d] ++ r).head?, c ∉ "App".toList := fun r c hc hA => by
    simp only [List.cons_append, List.nil_append, List.head?_cons, Option.mem_def,
      Option.some.injEq] at hc
    exact hd (hc ▸ List.mem_cons_of_mem '.' hA)
  rw [Pattern.find?_eq_none_iff, Pattern.clear_append] at h
  rw [Pattern.clear_append]
  refine ⟨(entry_clear_congr (hdApp []) (hdApp rest)).1 h.1, entry_clear_of_no_dot fun h' => hd ?_⟩
  obtain rfl := List.mem_singleton.1 h'
  exact List.mem_cons_self

/-- A coordinate is a quote, the lead, a run and the quote again. -/
theorem coordinate_edges {s m r : List Char} (h : coordinateAt s = some (m, r)) :
    ∃ q, isQuote q ∧ m.head? = some q ∧ m.getLast? = some q := by
  obtain ⟨q, run, hq, -, rfl, -⟩ := coordinateAt_eq_some_iff.1 h
  refine ⟨q, hq, rfl, ?_⟩
  rw [← List.append_assoc, ← List.cons_append, List.getLast?_concat]

theorem banner_edges {s m r : List Char} (h : bannerAt s = some (m, r)) :
    m.head? = some 'U' ∧ m.getLast? = some ' ' := by
  obtain ⟨run, -, -, rfl, -⟩ := banner_matchAt_eq h
  exact ⟨rfl, by simp⟩

theorem not_mem_legacyEntry_of_isQuote {q : Char} (hq : isQuote q) : q ∉ legacyEntry := by
  simp only [isQuote, Bool.or_eq_true, decide_eq_true_eq] at hq
  rcases hq with rfl | rfl <;> decide

theorem endsWord_append_of_head? {x : List Char} {e : Char} (h : x.head? = some e)
    (c : List Char) : endsWord (x ++ c) = !isWordChar e := by
  cases x with
  | nil => cases h
  | cons d x =>
    cases h
    rfl

/-! ## Replacing one piece -/

/-- Replacing a piece of run characters that opens with a character foreign to a lead by
    another such piece keeps the count of coordinates: no coordinate starts in either, and one
    from before passes over both alike. -/
theorem coordinate_count_replace_run {x y : List Char} {e e' : Char} (a c : List Char)
    (hx : ∀ d ∈ x, inCoordinateRun d) (hy : ∀ d ∈ y, inCoordinateRun d)
    (hxh : x.head? = some e) (hyh : y.head? = some e')
    (he : e ∉ coordinateLead) (he' : e' ∉ coordinateLead) :
    coordinate.count (a ++ (x ++ c)) = coordinate.count (a ++ (y ++ c)) := by
  apply Pattern.count_replace
  · rw [Pattern.count_append_of_clear
        (coordinate_clear_of_no_quote fun d hd => isQuote_of_inCoordinateRun (hx d hd)),
      Pattern.count_append_of_clear
        (coordinate_clear_of_no_quote fun d hd => isQuote_of_inCoordinateRun (hy d hd))]
  · rintro u hu -
    obtain ⟨q, u, rfl⟩ := List.exists_cons_of_ne_nil hu
    exact coordinate_seesAlike (head?_append_not_mem hxh he c) (head?_append_not_mem hyh he' c)
      hx hy q u

/-- Replacing a piece that starts no `.App` and opens with a character foreign to `.App` by
    another such piece keeps the count of `.App` references, when the two first characters
    decide alike whether a word ends before them. -/
theorem legacy_count_replace_piece {x y : List Char} {e e' : Char} (a c : List Char)
    (hx : entry.Clear x c) (hy : entry.Clear y c)
    (hxh : x.head? = some e) (hyh : y.head? = some e')
    (he : e ∉ legacyEntry) (he' : e' ∉ legacyEntry) (hw : isWordChar e = isWordChar e') :
    legacyReference.count (a ++ (x ++ c)) = legacyReference.count (a ++ (y ++ c)) := by
  apply Pattern.count_replace
  · rw [Pattern.count_append_of_clear (legacyReference_clear_of_entry hx),
      Pattern.count_append_of_clear (legacyReference_clear_of_entry hy)]
  · rintro u - -
    refine legacyReference_seesAlike (head?_append_not_mem hxh he c)
      (head?_append_not_mem hyh he' c) ?_ u
    rw [endsWord_append_of_head? hxh, endsWord_append_of_head? hyh, hw]

/-! ## The three steps of a rewrite -/

section WellFormed

variable {v : List Char} (hv : Version.isWellFormed v = true)
include hv

/-- The new banner keeps the count of coordinates when the first banner holds no quote: both
    are banner texts, which no coordinate starts in and whose every character a run takes. -/
theorem coordinate_count_replace_banner {t : List Char}
    (hq : ∀ f, banner.find? t = some f → ∀ c ∈ f.matched, isQuote c = false) :
    coordinate.count (banner.replaceFirst (fun _ => bannerTemplate v) t) = coordinate.count t := by
  cases hb : banner.find? t with
  | none => rw [banner.replaceFirst_of_find?_none _ hb]
  | some f =>
    obtain ⟨hs, hX, -⟩ := Pattern.find?_eq_some_iff.1 hb
    have hx := bannerText_of_bannerAt hX (hq f hb)
    have hy := bannerText_bannerTemplate hv
    rw [banner.replaceFirst_of_find? hb, List.append_assoc]
    conv_rhs => rw [hs]
    -- both banners open with `U`, which no lead holds
    exact (coordinate_count_replace_run _ _ hx.inCoordinateRun hy.inCoordinateRun hx.head?
      hy.head? (by decide) (by decide)).symm

/-- The new banner keeps the count of `.App` references when the first banner holds no `.App`:
    a `.App` cannot reach into a banner, which opens with `U`, nor out of it, since it ends with
    a space. -/
theorem legacy_count_replace_banner {t : List Char}
    (he : ∀ f, banner.find? t = some f → entry.find? f.matched = none) :
    legacyReference.count (banner.replaceFirst (fun _ => bannerTemplate v) t) =
      legacyReference.count t := by
  cases hb : banner.find? t with
  | none => rw [banner.replaceFirst_of_find?_none _ hb]
  | some f =>
    obtain ⟨hs, hX, -⟩ := Pattern.find?_eq_some_iff.1 hb
    obtain ⟨hXh, hXl⟩ := banner_edges hX
    rw [banner.replaceFirst_of_find? hb, List.append_assoc]
    conv_rhs => rw [hs]
    -- both banners open with `U`
    exact (legacy_count_replace_piece _ _ (entry_clear_of_getLast? (he f hb) hXl (by decide))
      (entry_clear_bannerTemplate hv _) hXh rfl (by decide) (by decide) rfl).symm

/-- The new coordinate takes the first coordinate away and no other, when it neither closes a
    coordinate opened before it nor opens one after it with its closing quote. -/
theorem coordinate_count_replace_coordinate {s : List Char} {f : Found}
    (hf : coordinate.find? s = some f)
    (hclose : coordinate.Clear f.before (coordinateTemplate v ++ f.after))
    (hopen : coordinateAt ('"' :: f.after) = none) :
    coordinate.count (coordinate.replaceFirst (fun _ => coordinateTemplate v) s) + 1 =
      coordinate.count s := by
  -- inside the new coordinate only its closing quote could open one
  have hbody : ∀ c ∈ scala3Body ++ v, isQuote c = false := by
    intro c hc
    rcases List.mem_append.1 hc with hc | hc
    · have hb := List.all_eq_true.1 (by decide : scala3Body.all (fun c => !isQuote c) = true) c hc
      simpa using hb
    · exact Version.isQuote_of_isVersionChar (Version.isVersionChar_of_isWellFormed hv c hc)
  have hT : coordinate.Clear (coordinateTemplate v) f.after := by
    rw [coordinateTemplate_eq, Pattern.clear_cons, Pattern.clear_append]
    exact ⟨coordinateAt_coordinateTemplate v f.after, coordinate_clear_of_no_quote hbody,
      hopen, trivial⟩
  rw [Pattern.count_of_find? hf, coordinate.replaceFirst_of_find? hf, List.append_assoc,
    Pattern.count_append_of_clear hclose, Pattern.count_append_of_clear hT]

/-- The new coordinate keeps the count of `.App` references when the first coordinate holds no
    `.App`: both are quoted, and a quote neither continues a `.App` nor a word. -/
theorem legacy_count_replace_coordinate {s : List Char} {f : Found}
    (hf : coordinate.find? s = some f) (he : entry.find? f.matched = none) :
    legacyReference.count (coordinate.replaceFirst (fun _ => coordinateTemplate v) s) =
      legacyReference.count s := by
  obtain ⟨hs, hm, -⟩ := Pattern.find?_eq_some_iff.1 hf
  obtain ⟨q, hq, hmh, hml⟩ := coordinate_edges hm
  -- both open with a quote, which ends a word
  have hw : isWordChar q = isWordChar '"' := by
    simp only [isQuote, Bool.or_eq_true, decide_eq_true_eq] at hq
    rcases hq with rfl | rfl <;> rfl
  rw [coordinate.replaceFirst_of_find? hf, List.append_assoc]
  conv_rhs => rw [hs]
  exact (legacy_count_replace_piece _ _
    (entry_clear_of_getLast? he hml (not_mem_legacyEntry_of_isQuote hq))
    (entry_clear_coordinateTemplate hv _) hmh rfl (not_mem_legacyEntry_of_isQuote hq)
    (by decide) hw).symm

end WellFormed

/-- The rename keeps the count of coordinates: `App` and `main` open with characters foreign to
    a lead, and a run takes all of their characters. -/
theorem coordinate_count_renameEntryPoint (t : List Char) :
    coordinate.count (renameEntryPoint t) = coordinate.count t := by
  cases he : entry.find? t with
  | none => rw [renameEntryPoint_of_find?_none he]
  | some f =>
    obtain ⟨hs, hm, -⟩ := Pattern.find?_eq_some_iff.1 he
    obtain ⟨hf, -⟩ := entryAt_eq_some_iff.1 hm
    rw [renameEntryPoint, entry.replaceFirst_of_find? he]
    conv_rhs => rw [hs]
    rw [hf]
    -- the dot stays; the rest of the name is the piece that changes
    have h1 : f.before ++ modernEntry ++ f.after =
        (f.before ++ ['.']) ++ (['m', 'a', 'i', 'n'] ++ f.after) := by
      simp [modernEntry]
    have h2 : f.before ++ (legacyEntry ++ f.after) =
        (f.before ++ ['.']) ++ (['A', 'p', 'p'] ++ f.after) := by
      simp [legacyEntry]
    have hApp : ∀ c ∈ ['A', 'p', 'p'], inCoordinateRun c := by
      intro c hc
      simp only [List.mem_cons, List.not_mem_nil, or_false] at hc
      rcases hc with rfl | rfl | rfl <;> decide
    have hmain : ∀ c ∈ ['m', 'a', 'i', 'n'], inCoordinateRun c := by
      intro c hc
      simp only [List.mem_cons, List.not_mem_nil, or_false] at hc
      rcases hc with rfl | rfl | rfl | rfl <;> decide
    rw [h1, h2]
    exact (coordinate_count_replace_run _ _ hApp hmain rfl rfl (by decide) (by decide)).symm

/-- The rename takes one `.App` reference away when the first `.App` ends a word. -/
theorem legacy_count_renameEntryPoint {t : List Char} {f : Found} (he : entry.find? t = some f)
    (hw : endsWord f.after = true) :
    legacyReference.count (renameEntryPoint t) + 1 = legacyReference.count t := by
  obtain ⟨hs, hm, hb⟩ := Pattern.find?_eq_some_iff.1 he
  obtain ⟨hf, -⟩ := entryAt_eq_some_iff.1 hm
  rw [hf] at hb
  -- nothing before the first `.App` starts one, before `.main` either
  have hb' : entry.Clear f.before (modernEntry ++ f.after) := entry_clear_dot_congr.1 hb
  have hmain : entry.Clear modernEntry f.after := entry_clear_of_no_A (by decide) (by decide)
  have href : legacyReference.matchAt (legacyEntry ++ f.after) = some (legacyEntry, f.after) := by
    simp [legacyReference, legacyReferenceAt, stripPrefix?_eq_some_iff.2 rfl, hw]
  rw [renameEntryPoint, entry.replaceFirst_of_find? he, List.append_assoc,
    Pattern.count_append_of_clear (legacyReference_clear_of_entry hb'),
    Pattern.count_append_of_clear (legacyReference_clear_of_entry hmain)]
  conv_rhs => rw [hs, hf]
  rw [Pattern.count_append_of_clear (legacyReference_clear_of_entry hb),
    Pattern.count_of_matchAt href]

/-- The warnings after a rewrite report one coordinate and one `.App` reference fewer than the
    text had, when the three steps do not interact: the first banner holds no quote and, for an
    application, no `.App`; the new coordinate neither closes a coordinate opened before it nor
    opens one after it, and the coordinate it replaces holds no `.App`; and the first `.App`
    that the rename finds ends a word. -/
theorem rewrite_leftover_counts (t : List Char) (v : String) (lib : Bool)
    (hv : Version.validate v = .ok v)
    (hbanner : ∀ f, banner.find? t = some f →
      (∀ c ∈ f.matched, isQuote c = false) ∧ (lib = false → entry.find? f.matched = none))
    (hcoord : ∀ f, coordinate.find? (banner.replaceFirst (fun _ => bannerTemplate v.toList) t) =
        some f →
      coordinate.Clear f.before (coordinateTemplate v.toList ++ f.after) ∧
        coordinateAt ('"' :: f.after) = none ∧ (lib = false → entry.find? f.matched = none))
    (hentry : lib = false → ∀ f, entry.find? (coordinate.replaceFirst
        (fun _ => coordinateTemplate v.toList)
        (banner.replaceFirst (fun _ => bannerTemplate v.toList) t)) = some f →
      endsWord f.after = true) :
    ∃ t', rewrite t v.toList lib = .ok t' ∧
      coordinate.count t' = coordinate.count t - 1 ∧
      (lib = false → legacyReference.count t' = legacyReference.count t - 1) ∧
      leftovers t' lib =
        (if coordinate.count t - 1 = 0 then [] else [.coordinates (coordinate.count t - 1)]) ++
          (if lib || legacyReference.count t - 1 = 0 then [] else
            [.legacyReferences (legacyReference.count t - 1)]) := by
  have hwf := (Version.validate_eq_ok_iff.1 hv).1
  -- the banner step keeps both counts
  have hc1 := coordinate_count_replace_banner hwf fun f hf => (hbanner f hf).1
  have ha1 : lib = false → legacyReference.count (banner.replaceFirst
      (fun _ => bannerTemplate v.toList) t) = legacyReference.count t := fun hl =>
    legacy_count_replace_banner hwf fun f hf => (hbanner f hf).2 hl
  generalize hs1 : banner.replaceFirst (fun _ => bannerTemplate v.toList) t = s1 at hc1 ha1 hcoord hentry
  -- the coordinate step takes one coordinate away and keeps the references
  have hc2 : coordinate.count (coordinate.replaceFirst (fun _ => coordinateTemplate v.toList) s1) =
      coordinate.count s1 - 1 := by
    cases hf : coordinate.find? s1 with
    | none =>
      rw [coordinate.replaceFirst_of_find?_none _ hf, Pattern.count_eq_zero_iff.2 hf]
    | some f =>
      have h := coordinate_count_replace_coordinate hwf hf (hcoord f hf).1 (hcoord f hf).2.1
      omega
  have ha2 : lib = false → legacyReference.count (coordinate.replaceFirst
      (fun _ => coordinateTemplate v.toList) s1) = legacyReference.count s1 := fun hl => by
    cases hf : coordinate.find? s1 with
    | none => rw [coordinate.replaceFirst_of_find?_none _ hf]
    | some f => exact legacy_count_replace_coordinate hwf hf ((hcoord f hf).2.2 hl)
  generalize hs2 : coordinate.replaceFirst (fun _ => coordinateTemplate v.toList) s1 = s2
    at hc2 ha2 hentry
  -- the rename keeps the coordinates and takes one reference away
  have hc3 := coordinate_count_renameEntryPoint s2
  have ha3 : lib = false → legacyReference.count (renameEntryPoint s2) =
      legacyReference.count s2 - 1 := fun hl => by
    cases he : entry.find? s2 with
    | none =>
      rw [renameEntryPoint_of_find?_none he,
        Pattern.count_eq_zero_iff.2 (legacyReference_find?_eq_none he)]
    | some f =>
      have h := legacy_count_renameEntryPoint he (hentry hl f he)
      omega
  have hleft : ∀ t', coordinate.count t' = coordinate.count t - 1 →
      (lib = false → legacyReference.count t' = legacyReference.count t - 1) →
      leftovers t' lib =
        (if coordinate.count t - 1 = 0 then [] else [.coordinates (coordinate.count t - 1)]) ++
          (if lib || legacyReference.count t - 1 = 0 then [] else
            [.legacyReferences (legacyReference.count t - 1)]) := by
    intro t' hc ha
    cases lib
    · simp only [leftovers, hc, ha rfl]
    · simp only [leftovers, hc, Bool.true_or, if_true]
  rw [rewrite_of_isWellFormed hwf, hs1, hs2]
  cases lib
  · have hc : coordinate.count (renameEntryPoint s2) = coordinate.count t - 1 := by
      rw [hc3, hc2, hc1]
    have ha : legacyReference.count (renameEntryPoint s2) = legacyReference.count t - 1 := by
      rw [ha3 rfl, ha2 rfl, ha1 rfl]
    exact ⟨_, rfl, hc, fun _ => ha, hleft _ hc fun _ => ha⟩
  · have hc : coordinate.count s2 = coordinate.count t - 1 := by rw [hc2, hc1]
    have hl : true = false → legacyReference.count s2 = legacyReference.count t - 1 := by simp
    exact ⟨_, rfl, hc, hl, hleft _ hc hl⟩

/-- An application with one coordinate and two `.App` references: the warnings report the
    second reference only. -/
theorem rewrite_leftover_counts_app :
    rewrite "Use Scala 2 'org.scala-lang:scala-library:2' a.App b.App".toList "3.3.1".toList false =
        .ok "Use Scala 3.3.1 \"org.scala-lang:scala3-library_3:3.3.1\" a.main b.App".toList ∧
      leftovers "Use Scala 3.3.1 \"org.scala-lang:scala3-library_3:3.3.1\" a.main b.App".toList
        false = [.legacyReferences 1] := by
  have hb : banner.find? "Use Scala 2 'org.scala-lang:scala-library:2' a.App b.App".toList =
      some ⟨[], "Use Scala 2 ".toList, "'org.scala-lang:scala-library:2' a.App b.App".toList⟩ := by
    decide
  have hs1 : banner.replaceFirst (fun _ => bannerTemplate "3.3.1".toList)
      "Use Scala 2 'org.scala-lang:scala-library:2' a.App b.App".toList =
      "Use Scala 3.3.1 'org.scala-lang:scala-library:2' a.App b.App".toList := by
    decide
  have hc : coordinate.find? "Use Scala 3.3.1 'org.scala-lang:scala-library:2' a.App b.App".toList =
      some ⟨"Use Scala 3.3.1 ".toList, "'org.scala-lang:scala-library:2'".toList,
        " a.App b.App".toList⟩ := by
    decide
  have hs2 : coordinate.replaceFirst (fun _ => coordinateTemplate "3.3.1".toList)
      "Use Scala 3.3.1 'org.scala-lang:scala-library:2' a.App b.App".toList =
      "Use Scala 3.3.1 \"org.scala-lang:scala3-library_3:3.3.1\" a.App b.App".toList := by
    decide
  have he : entry.find? "Use Scala 3.3.1 \"org.scala-lang:scala3-library_3:3.3.1\" a.App b.App".toList =
      some ⟨"Use Scala 3.3.1 \"org.scala-lang:scala3-library_3:3.3.1\" a".toList, ".App".toList,
        " b.App".toList⟩ := by
    decide
  have noQuote : ∀ l : List Char, l.all (fun c => !isQuote c) = true → ∀ c ∈ l, isQuote c = false :=
    fun l h c hc => by simpa using List.all_eq_true.1 h c hc
  obtain ⟨t', h, -, -, hl⟩ := rewrite_leftover_counts
    "Use Scala 2 'org.scala-lang:scala-library:2' a.App b.App".toList "3.3.1" false (by decide)
    (fun f hf => by
      rw [hb] at hf
      cases hf
      exact ⟨noQuote _ (by decide), fun _ => by decide⟩)
    (fun f hf => by
      rw [hs1, hc] at hf
      cases hf
      exact ⟨coordinate_clear_of_no_quote (noQuote _ (by decide)), by decide, fun _ => by decide⟩)
    (fun _ f hf => by
      rw [hs1, hs2, he] at hf
      cases hf
      rfl)
  have ht' : t' = "Use Scala 3.3.1 \"org.scala-lang:scala3-library_3:3.3.1\" a.main b.App".toList := by
    rw [rewrite_of_isWellFormed (by decide)] at h
    exact (Except.ok.inj h).symm.trans (by decide)
  subst ht'
  -- one coordinate and two references in the text
  have hct : coordinate.count "Use Scala 2 'org.scala-lang:scala-library:2' a.App b.App".toList = 1 := by
    rw [Pattern.count_of_find? (f := ⟨"Use Scala 2 ".toList, "'org.scala-lang:scala-library:2'".toList,
      " a.App b.App".toList⟩) (by decide), Pattern.count_eq_zero_iff.2 (by decide)]
  have hat : legacyReference.count "Use Scala 2 'org.scala-lang:scala-library:2' a.App b.App".toList =
      2 := by
    rw [Pattern.count_of_find? (f := ⟨"Use Scala 2 'org.scala-lang:scala-library:2' a".toList,
      ".App".toList, " b.App".toList⟩) (by decide),
      Pattern.count_of_find? (f := ⟨" b".toList, ".App".toList, []⟩) (by decide),
      Pattern.count_eq_zero_iff.2 (by decide)]
  refine ⟨h, ?_⟩
  rw [hl, hct, hat]
  rfl

/-- A banner that holds the first coordinate takes it away: the text has two coordinates, and
    the rewritten text leaves no warning. -/
theorem rewrite_swallows_coordinate :
    coordinate.count
        "Use Scala 'org.scala-lang:scala-library:1' 'org.scala-lang:scala-library:2'\n".toList = 2 ∧
      rewrite "Use Scala 'org.scala-lang:scala-library:1' 'org.scala-lang:scala-library:2'\n".toList
          "3.3.1".toList true =
        .ok "Use Scala 3.3.1 \"org.scala-lang:scala3-library_3:3.3.1\"\n".toList ∧
      leftovers "Use Scala 3.3.1 \"org.scala-lang:scala3-library_3:3.3.1\"\n".toList true = [] := by
  refine ⟨?_, ?_, leftovers_eq_nil_iff.2 ⟨by decide, by simp⟩⟩
  · rw [Pattern.count_of_find? (f := ⟨"Use Scala ".toList, "'org.scala-lang:scala-library:1'".toList,
      " 'org.scala-lang:scala-library:2'\n".toList⟩) (by decide),
      Pattern.count_of_find? (f := ⟨" ".toList, "'org.scala-lang:scala-library:2'".toList,
        "\n".toList⟩) (by decide),
      Pattern.count_eq_zero_iff.2 (by decide)]
  · rw [rewrite_of_isWellFormed (by decide)]
    exact congrArg Except.ok (by decide)

/-- A banner that holds a `.App` takes it away, and the rename takes the other: the text has two
    references, and the rewritten text leaves no warning. -/
theorem rewrite_banner_swallows_entry :
    let t := "Use Scala a.App b.App".toList
    let t1 := "Use Scala 3.3.1 b.main".toList
    legacyReference.count t = 2 ∧ rewrite t "3.3.1".toList false = .ok t1 ∧
      leftovers t1 false = [] := by
  intro t t1
  refine ⟨?_, ?_, leftovers_eq_nil_iff.2 ⟨by decide, fun _ => by decide⟩⟩
  · rw [Pattern.count_of_find? (f := ⟨"Use Scala a".toList, ".App".toList, " b.App".toList⟩)
      (by decide), Pattern.count_of_find? (f := ⟨" b".toList, ".App".toList, []⟩) (by decide),
      Pattern.count_eq_zero_iff.2 (by decide)]
  · rw [rewrite_of_isWellFormed (by decide)]
    exact congrArg Except.ok (by decide)

/-- A coordinate opened with `"` that the old coordinate's `'` did not close: the new coordinate's
    opening `"` closes it, so the rewritten text still has one coordinate. -/
theorem rewrite_completes_coordinate :
    let t := "\"org.scala-lang:scala-library:1'org.scala-lang:scala-library:2'".toList
    let t1 := "\"org.scala-lang:scala-library:1\"org.scala-lang:scala3-library_3:3.3.1\"".toList
    coordinate.count t = 1 ∧ rewrite t "3.3.1".toList true = .ok t1 ∧
      leftovers t1 true = [.coordinates 1] := by
  intro t t1
  refine ⟨?_, ?_, ?_⟩
  · rw [Pattern.count_of_find? (f := ⟨"\"org.scala-lang:scala-library:1".toList,
      "'org.scala-lang:scala-library:2'".toList, []⟩) (by decide),
      Pattern.count_eq_zero_iff.2 (by decide)]
  · rw [rewrite_of_isWellFormed (by decide)]
    exact congrArg Except.ok (by decide)
  · -- the old lead now closes at the new coordinate's opening quote
    have hc : coordinate.count t1 = 1 := by
      rw [Pattern.count_of_find? (f := ⟨[], "\"org.scala-lang:scala-library:1\"".toList,
        "org.scala-lang:scala3-library_3:3.3.1\"".toList⟩) (by decide),
        Pattern.count_eq_zero_iff.2 (by decide)]
    have hm : legacyReference.count t1 = 0 := Pattern.count_eq_zero_iff.2 (by decide)
    simp only [leftovers, hc, hm]
    rfl

/-- A lead after the old coordinate, closed by a `"`: the new coordinate's closing `"` opens a
    coordinate there, so the rewritten text still has one. -/
theorem rewrite_opens_coordinate :
    let t := "'org.scala-lang:scala-library:2'org.scala-lang:scala-library:3\"".toList
    let t1 := "\"org.scala-lang:scala3-library_3:3.3.1\"org.scala-lang:scala-library:3\"".toList
    coordinate.count t = 1 ∧ rewrite t "3.3.1".toList true = .ok t1 ∧
      leftovers t1 true = [.coordinates 1] := by
  intro t t1
  refine ⟨?_, ?_, ?_⟩
  · rw [Pattern.count_of_find? (f := ⟨[], "'org.scala-lang:scala-library:2'".toList,
      "org.scala-lang:scala-library:3\"".toList⟩) (by decide),
      Pattern.count_eq_zero_iff.2 (by decide)]
  · rw [rewrite_of_isWellFormed (by decide)]
    exact congrArg Except.ok (by decide)
  · -- the new coordinate's closing quote opens the lead after it
    have hc : coordinate.count t1 = 1 := by
      rw [Pattern.count_of_find? (f := ⟨"\"org.scala-lang:scala3-library_3:3.3.1".toList,
        "\"org.scala-lang:scala-library:3\"".toList, []⟩) (by decide),
        Pattern.count_eq_zero_iff.2 (by decide)]
    have hm : legacyReference.count t1 = 0 := Pattern.count_eq_zero_iff.2 (by decide)
    simp only [leftovers, hc, hm]
    rfl

/-- A coordinate that holds a `.App` takes it away, and the rename takes the other: the text has
    two references, and the rewritten text leaves no warning. -/
theorem rewrite_coordinate_swallows_entry :
    let t := "\"org.scala-lang:scala-library:x.App\" y.App".toList
    let t1 := "\"org.scala-lang:scala3-library_3:3.3.1\" y.main".toList
    legacyReference.count t = 2 ∧ rewrite t "3.3.1".toList false = .ok t1 ∧
      leftovers t1 false = [] := by
  intro t t1
  refine ⟨?_, ?_, leftovers_eq_nil_iff.2 ⟨by decide, fun _ => by decide⟩⟩
  · rw [Pattern.count_of_find? (f := ⟨"\"org.scala-lang:scala-library:x".toList, ".App".toList,
      "\" y.App".toList⟩) (by decide),
      Pattern.count_of_find? (f := ⟨"\" y".toList, ".App".toList, []⟩) (by decide),
      Pattern.count_eq_zero_iff.2 (by decide)]
  · rw [rewrite_of_isWellFormed (by decide)]
    exact congrArg Except.ok (by decide)

/-- A `.App` that goes on as a word comes before the only reference: the rename takes it, and
    the rewritten text still reports the reference. -/
theorem rewrite_skips_whole_entry :
    let t := "x.Apple y.App".toList
    let t1 := "x.mainle y.App".toList
    legacyReference.count t = 1 ∧ rewrite t "3.3.1".toList false = .ok t1 ∧
      leftovers t1 false = [.legacyReferences 1] := by
  intro t t1
  refine ⟨?_, ?_, ?_⟩
  · rw [Pattern.count_of_find? (f := ⟨"x.Apple y".toList, ".App".toList, []⟩) (by decide),
      Pattern.count_eq_zero_iff.2 (by decide)]
  · rw [rewrite_of_isWellFormed (by decide)]
    exact congrArg Except.ok (by decide)
  · have hm : legacyReference.count t1 = 1 := by
      rw [Pattern.count_of_find? (f := ⟨"x.mainle y".toList, ".App".toList, []⟩) (by decide),
        Pattern.count_eq_zero_iff.2 (by decide)]
    have hc : coordinate.count t1 = 0 := Pattern.count_eq_zero_iff.2 (by decide)
    simp only [leftovers, hc, hm]
    rfl

end BuildText

end BuildMigration
