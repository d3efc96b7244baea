import BuildMigration.Proofs.EntryPoint
/-!
# Finding the main class, position by position

The package of an application is read off the first quoted entry name of its build text.
Seen position by position, that search is a plain scan. At a position it looks for a quote,
the longest run after it of characters that are neither quotes nor blank, and the same quote
right after the run; the run must be a nonempty name followed by `.App` or `.main`. The
first position where all of this holds gives the main class, and the package is that run cut
at its dots, without the last piece. Since the closing quote cannot stand in a run, the run
of a match is always the longest one: the scan never has to look back.

* `quotedEntryAt_iff`: a quoted entry name at a position, as a piece of the text;
* `mainClassName?_eq_some_iff`, `mainClassName?_eq_none_iff`: the main class is the run at the
  least position that opens a quoted entry name, and there is none when no position does;
* `package_pieces`: the package of an entry name is nonempty, and its pieces hold no dot and
  only characters of the name;
* `packagePath_scan`: the package path is what the scan finds, or the failure when it finds
  nothing.
-/

namespace BuildMigration

namespace Text

/-- The character at a position opens the text from there on. -/
theorem drop_eq_cons_of_getElem? {t : List Char} {i : Nat} {c : Char} (h : t[i]? = some c) :
    t.drop i = c :: t.drop (i + 1) := by
  obtain ⟨hi, rfl⟩ := List.getElem?_eq_some_iff.1 h
  exact List.drop_eq_getElem_cons hi

end Text

namespace BuildText

open Text

theorem isEntryName_iff {r : List Char} :
    isEntryName r ↔ ∃ x, x ≠ [] ∧ (r = x ++ ".App".toList ∨ r = x ++ ".main".toList) := by
  refine ⟨fun h => ?_, ?_⟩
  · rcases isEntryName_cases h with ⟨x, hx, rfl⟩ | ⟨x, hx, rfl⟩
    · exact ⟨x, hx, .inl rfl⟩
    · exact ⟨x, hx, .inr rfl⟩
  · rintro ⟨x, hx, rfl | rfl⟩
    · have hl : x.length ≠ 0 := fun h0 => hx (List.eq_nil_of_length_eq_zero h0)
      simp only [isEntryName, Bool.or_eq_true, Bool.and_eq_true, List.isSuffixOf_iff_suffix,
        decide_eq_true_eq]
      exact .inl ⟨List.suffix_append _ _, by simp; omega⟩
    · exact isEntryName_modern hx

/-- A quoted entry name opens at position `i` of the text `t`, with the quote `q` and the run
    `r`. -/
structure QuotedEntryAt (t : List Char) (i : Nat) (q : Char) (r : List Char) : Prop where
  /-- The character at the position is `q`. -/
  opens : t[i]? = some q
  /-- `q` is a quote. -/
  quote : isQuote q
  /-- `r` is the longest run after the position of characters that are neither quotes nor
      blank. -/
  run : (t.drop (i + 1)).takeWhile (fun c => !isQuote c && !isBlank c) = r
  /-- The character after the run is `q` again. -/
  closes : t[i + 1 + r.length]? = some q
  /-- The run is a nonempty name followed by `.App` or `.main`. -/
  entry : ∃ x, x ≠ [] ∧ (r = x ++ ".App".toList ∨ r = x ++ ".main".toList)

/-- A quoted entry name at a position is a quote, a run of name characters that is an entry
    name, and the same quote, at the front of the text from there on. -/
theorem quotedEntryAt_iff {t r : List Char} {i : Nat} {q : Char} :
    QuotedEntryAt t i q r ↔ isQuote q ∧ (∀ c ∈ r, inClassName c) ∧ isEntryName r ∧
      ∃ a, t.drop i = q :: (r ++ q :: a) := by
  constructor
  · intro h
    have hrun : ∀ c ∈ r, inClassName c := fun c hc => of_mem_takeWhile (h.run ▸ hc)
    -- the run is a front of the text after the opening quote, and the closing quote follows it
    have hfront : r ++ (t.drop (i + 1)).drop r.length = t.drop (i + 1) :=
      List.prefix_iff_eq_append.1 (h.run ▸ List.takeWhile_prefix _)
    have hclose : (t.drop (i + 1)).drop r.length = q :: t.drop (i + 1 + r.length + 1) := by
      rw [List.drop_drop]
      exact drop_eq_cons_of_getElem? h.closes
    refine ⟨h.quote, hrun, isEntryName_iff.2 h.entry, t.drop (i + 1 + r.length + 1), ?_⟩
    rw [drop_eq_cons_of_getElem? h.opens, ← hfront, hclose]
  · rintro ⟨hq, hrun, he, a, ha⟩
    have hafter : t.drop (i + 1) = r ++ q :: a := by
      rw [← List.drop_drop, ha]
      rfl
    refine ⟨?_, hq, ?_, ?_, isEntryName_iff.1 he⟩
    · have h0 : (t.drop i)[0]? = some q := by rw [ha]; rfl
      simpa using h0
    · show (t.drop (i + 1)).takeWhile inClassName = r
      rw [hafter, List.takeWhile_append_of_pos hrun,
        List.takeWhile_cons_of_neg (by simp [inClassName_of_isQuote hq]), List.append_nil]
    · have hr : (t.drop (i + 1))[r.length]? = some q := by simp [hafter]
      simpa [Nat.add_assoc] using hr

/-- A main class starts at a position exactly when a quoted entry name opens there. -/
theorem mainClassAt_drop_eq_some_iff {t m a : List Char} {i : Nat} :
    mainClassAt (t.drop i) = some (m, a) ↔
      ∃ q r, QuotedEntryAt t i q r ∧ m = q :: (r ++ [q]) ∧ t.drop i = m ++ a := by
  constructor
  · intro h
    obtain ⟨q, r, hq, hr, he, rfl, hs⟩ := mainClass_matchAt_eq h
    exact ⟨q, r, quotedEntryAt_iff.2 ⟨hq, hr, he, a, by simpa using hs⟩, rfl, hs⟩
  · rintro ⟨q, r, h, rfl, hs⟩
    obtain ⟨hq, hr, he, -⟩ := quotedEntryAt_iff.1 h
    rw [hs]
    simpa using mainClassAt_quoted hq hr he a

theorem mainClassAt_drop_eq_none_iff {t : List Char} {j : Nat} :
    mainClassAt (t.drop j) = none ↔ ∀ q r, ¬ QuotedEntryAt t j q r := by
  constructor
  · intro h q r hqr
    obtain ⟨-, -, -, a, ha⟩ := quotedEntryAt_iff.1 hqr
    have hm := mainClassAt_drop_eq_some_iff.2 ⟨q, r, hqr, rfl, by simpa using ha⟩
    rw [h] at hm
    cases hm
  · intro h
    cases hm : mainClassAt (t.drop j) with
    | none => rfl
    | some ma =>
      obtain ⟨q, r, hqr, -⟩ := mainClassAt_drop_eq_some_iff.1 hm
      exact absurd hqr (h q r)

/-- The main class is the run at the least position that opens a quoted entry name. -/
theorem mainClassName?_eq_some_iff {t r : List Char} :
    mainClassName? t = some r ↔
      ∃ i q, QuotedEntryAt t i q r ∧ ∀ j < i, ∀ q' r', ¬ QuotedEntryAt t j q' r' := by
  constructor
  · intro h
    obtain ⟨f, hf, rfl⟩ := Option.map_eq_some_iff.1 h
    obtain ⟨-, hm, hb⟩ := Pattern.find?_eq_some_iff_drop.1 hf
    obtain ⟨q, r, hr, hfm, -⟩ := mainClassAt_drop_eq_some_iff.1 hm
    refine ⟨f.before.length, q, by simpa [hfm] using hr, fun j hj => ?_⟩
    exact mainClassAt_drop_eq_none_iff.1 (hb j hj)
  · rintro ⟨i, q, h, hleast⟩
    obtain ⟨-, -, -, a, ha⟩ := quotedEntryAt_iff.1 h
    -- the text reaches past the position, since the entry name stands there
    have hi : (t.take i).length = i := by
      have hlt : i < t.length := by
        rcases Nat.lt_or_ge i t.length with hlt | hge
        · exact hlt
        · rw [List.drop_eq_nil_of_le hge] at ha
          cases ha
      rw [List.length_take]
      omega
    have hf : mainClass.find? t = some ⟨t.take i, q :: (r ++ [q]), a⟩ := by
      refine Pattern.find?_eq_some_iff_drop.2 ⟨by rw [hi], ?_, ?_⟩
      · rw [hi]
        exact mainClassAt_drop_eq_some_iff.2 ⟨q, r, h, rfl, by simpa using ha⟩
      · rw [hi]
        exact fun j hj => mainClassAt_drop_eq_none_iff.2 (hleast j hj)
    exact mainClassName?_of_find? hf

theorem mainClassName?_eq_none_iff {t : List Char} :
    mainClassName? t = none ↔ ∀ i q r, ¬ QuotedEntryAt t i q r := by
  rw [mainClassName?, Option.map_eq_none_iff, Pattern.find?_eq_none_iff_drop]
  exact forall_congr' fun j => mainClassAt_drop_eq_none_iff

/-- The package of an entry name is never empty, and its pieces hold no dot and only
    characters of the name. -/
theorem package_pieces {r : List Char} (he : isEntryName r) :
    (splitOn '.' r).dropLast ≠ [] ∧
      ∀ g ∈ (splitOn '.' r).dropLast, '.' ∉ g ∧ ∀ c ∈ g, c ∈ r := by
  refine ⟨?_, fun g hg => ⟨sep_not_mem_of_mem_splitOn (List.dropLast_subset _ hg),
    fun c hc => mem_of_mem_splitOn (List.dropLast_subset _ hg) hc⟩⟩
  -- the last piece is the name of the entry point, after the last dot
  rcases isEntryName_cases he with ⟨u, -, rfl⟩ | ⟨u, -, rfl⟩
  · rw [legacyEntry_eq, splitOn_append_sep u (by decide), List.dropLast_concat]
    exact splitOn_ne_nil _ _
  · rw [modernEntry_eq, splitOn_append_sep u (by decide), List.dropLast_concat]
    exact splitOn_ne_nil _ _

theorem packagePath_eq_ok_iff {t : List Char} {pkg : List String} :
    packagePath t = .ok pkg ↔
      ∃ r, mainClassName? t = some r ∧ pkg = ((splitOn '.' r).dropLast).map String.ofList := by
  unfold packagePath
  cases mainClassName? t with
  | none => simp
  | some r => simp [eq_comm]

/-- The package path agrees with a scan of the text position by position. It is found exactly
    when some position opens a quoted entry name, and it is then the run at the least such
    position cut at its dots, without the last piece: a nonempty list of pieces that hold no
    dot, no quote and no blank. Otherwise the package path fails with its one message. -/
theorem packagePath_scan (t : List Char) :
    ((∃ pkg, packagePath t = .ok pkg) ↔ ∃ i q r, QuotedEntryAt t i q r) ∧
    (∀ pkg, packagePath t = .ok pkg ↔ ∃ i q r, QuotedEntryAt t i q r ∧
      (∀ j < i, ∀ q' r', ¬ QuotedEntryAt t j q' r') ∧
      pkg = ((splitOn '.' r).dropLast).map String.ofList) ∧
    (∀ pkg, packagePath t = .ok pkg → pkg ≠ [] ∧
      ∀ seg ∈ pkg, ∀ c ∈ seg.toList, c ≠ '.' ∧ isQuote c = false ∧ isBlank c = false) ∧
    (∀ e, packagePath t = .error e ↔ (∀ i q r, ¬ QuotedEntryAt t i q r) ∧
      e = .unexpectedMainClass ∧
      e.message = "In gradle build file's 'application' section, 'mainClass' is an " ++
        "unexpected value. Expected something like: mainClass = \"<package>.App\"") := by
  have hok : ∀ pkg, packagePath t = .ok pkg ↔ ∃ i q r, QuotedEntryAt t i q r ∧
      (∀ j < i, ∀ q' r', ¬ QuotedEntryAt t j q' r') ∧
      pkg = ((splitOn '.' r).dropLast).map String.ofList := by
    intro pkg
    rw [packagePath_eq_ok_iff]
    constructor
    · rintro ⟨r, hr, rfl⟩
      obtain ⟨i, q, h, hleast⟩ := mainClassName?_eq_some_iff.1 hr
      exact ⟨i, q, r, h, hleast, rfl⟩
    · rintro ⟨i, q, r, h, hleast, rfl⟩
      exact ⟨r, mainClassName?_eq_some_iff.2 ⟨i, q, h, hleast⟩, rfl⟩
  have herr : ∀ e, packagePath t = .error e ↔ (∀ i q r, ¬ QuotedEntryAt t i q r) ∧
      e = .unexpectedMainClass := by
    intro e
    rw [packagePath_eq_error_iff, mainClassName?_eq_none_iff]
  refine ⟨?found, hok, ?pieces, fun e => ?failed⟩
  case found =>
    constructor
    · rintro ⟨pkg, hpkg⟩
      obtain ⟨i, q, r, h, -⟩ := (hok pkg).1 hpkg
      exact ⟨i, q, r, h⟩
    · rintro ⟨i, q, r, h⟩
      -- a package path that fails finds no entry name anywhere
      cases hp : packagePath t with
      | ok pkg => exact ⟨pkg, rfl⟩
      | error e => exact absurd h (((herr e).1 hp).1 i q r)
  case pieces =>
    intro pkg hpkg
    obtain ⟨i, q, r, h, -, rfl⟩ := (hok pkg).1 hpkg
    obtain ⟨-, hrun, he, -⟩ := quotedEntryAt_iff.1 h
    obtain ⟨hne, hg⟩ := package_pieces he
    refine ⟨fun h0 => hne (List.map_eq_nil_iff.1 h0), fun seg hseg c hc => ?_⟩
    obtain ⟨g, hgm, rfl⟩ := List.mem_map.1 hseg
    rw [String.toList_ofList] at hc
    obtain ⟨hdot, hin⟩ := hg g hgm
    have hcl := hrun c (hin c hc)
    simp only [inClassName, Bool.and_eq_true, Bool.not_eq_true'] at hcl
    exact ⟨fun e => hdot (e ▸ hc), hcl⟩
  case failed =>
    rw [herr e]
    constructor
    · rintro ⟨h, rfl⟩
      exact ⟨h, rfl, rfl⟩
    · rintro ⟨h, rfl, -⟩
      exact ⟨h, rfl⟩

/- A quoted value with a blank in it is passed over, and empty package pieces are kept. -/
example : packagePath "x 'a b.App' \"..App\"".toList = .ok ["", ""] := rfl

end BuildText

end BuildMigration
