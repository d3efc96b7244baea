import BuildMigration.Proofs.Rerun
import BuildMigration.Proofs.Replacements
/-!
# Texts that a rewrite keeps

A rewrite puts the new banner in the place of the first banner, the new coordinate in the
place of the first coordinate and, for an application, `.main` in the place of the first
`.App`. It gives a text back exactly when it has nothing to do there: the first banner, if
any, is the new banner, there is no coordinate and, for an application, no `.App`
(`rewrite_eq_self_iff`). Two arguments show it.

* Neither the new banner nor the new coordinate holds an `A`, while `.App` does: a rename
  that fires leaves the text with fewer `A`s than it had (`entry_find?_of_rewrite_eq_self`).
* The new coordinate never gives back the text that the new banner changed: wherever the
  first coordinate lies from the new banner, the text after both steps differs from the text
  before (`coordinate_find?_of_replace_eq`).

The warnings of a run tell of the coordinates and the `.App` references that are left, not of
the banner, and the new coordinate can complete a banner (`Use Scala "org…" `). So a rewritten
text may leave no warning and still change when rewritten again (`rewrite_exposes_banner`).
A rewritten text is settled exactly when it leaves no warning and its first banner is the new
one, when every `.App` in it ends a word (`rewritten_settled_iff`). A `.App` that goes on as a
word is no warning, yet a second rewrite renames it (`rewrite_renames_inner_entry`).
-/

namespace BuildMigration

namespace Text.Pattern

variable {p : Pattern} {g : List Char → List Char}

/-- A replacement takes out the characters of the match and puts in those of its
    replacement. -/
theorem count_replaceFirst {s : List Char} {f : Found} (c : Char) (h : p.find? s = some f) :
    (p.replaceFirst g s).count c + f.matched.count c = s.count c + (g f.matched).count c := by
  obtain ⟨hs, -, -⟩ := find?_eq_some_iff.1 h
  rw [replaceFirst_of_find? h]
  conv_rhs => rw [hs]
  simp only [List.count_append]
  omega

/-- A replacement by texts without `c` adds no `c`. -/
theorem count_replaceFirst_le {c : Char} (hg : ∀ m, c ∉ g m) (s : List Char) :
    (p.replaceFirst g s).count c ≤ s.count c := by
  cases h : p.find? s with
  | none => rw [p.replaceFirst_of_find?_none g h]
  | some f =>
    have hc := count_replaceFirst (g := g) c h
    rw [List.count_eq_zero.2 (hg _)] at hc
    omega

end Text.Pattern

namespace BuildText

open Text

theorem entryAt_eq_some_iff {s m r : List Char} : entryAt s = some (m, r) ↔ m = legacyEntry ∧ s = legacyEntry ++ r := by
  simp only [entryAt, Option.map_eq_some_iff, Prod.mk.injEq, stripPrefix?_eq_some_iff]
  constructor
  · rintro ⟨r', hs, rfl, rfl⟩
    exact ⟨rfl, hs⟩
  · rintro ⟨rfl, hs⟩
    exact ⟨r, hs, rfl, rfl⟩

/-- A rename that finds a `.App` leaves one `A` fewer: `.main` has none. -/
theorem count_renameEntryPoint {t : List Char} {f : Found} (h : entry.find? t = some f) :
    (renameEntryPoint t).count 'A' + 1 = t.count 'A' := by
  obtain ⟨-, hm, -⟩ := Pattern.find?_eq_some_iff.1 h
  obtain ⟨hf, -⟩ := entryAt_eq_some_iff.1 hm
  have hc := Pattern.count_replaceFirst (g := fun _ => modernEntry) 'A' h
  have h1 : legacyEntry.count 'A' = 1 := by decide
  have h0 : modernEntry.count 'A' = 0 := by decide
  rw [hf, h1, h0] at hc
  exact hc

/-- The new coordinate opens no coordinate: its lead reads `scala3-library_3` where a
    coordinate's reads `scala-library`. -/
theorem coordinateAt_coordinateTemplate (v z : List Char) :
    coordinateAt (coordinateTemplate v ++ z) = none := rfl

/-- A coordinate and the new coordinate never open one text. -/
theorem coordinate_ne_template {v m a x z : List Char} (hm : coordinateAt (m ++ a) = some (m, a)) :
    m ++ x ≠ coordinateTemplate v ++ z := by
  intro he
  obtain ⟨q, run, hq, hrun, rfl, -⟩ := coordinateAt_eq_some_iff.1 hm
  have hx := coordinateAt_quoted hq hrun x
  have hT := coordinateAt_coordinateTemplate v z
  rw [← he] at hT
  simp only [List.cons_append, List.append_assoc, List.nil_append] at hT
  rw [hT] at hx
  cases hx

/-- Two banners of runs without blanks, each followed by the rest of one text, agree. -/
theorem banner_append_inj {r r' x y : List Char} (hr : ∀ c ∈ r, inBannerRun c)
    (hr' : ∀ c ∈ r', inBannerRun c)
    (h : bannerLead ++ r ++ [' '] ++ x = bannerLead ++ r' ++ [' '] ++ y) : r = r' ∧ x = y := by
  simp only [List.append_assoc, List.append_cancel_left_eq, List.singleton_append] at h
  have hsp : inBannerRun ' ' = false := by decide
  -- the run is all of the text up to the first blank
  have hrun := congrArg (List.takeWhile inBannerRun) h
  rw [List.takeWhile_append_of_pos hr, List.takeWhile_append_of_pos hr',
    List.takeWhile_cons_of_neg (by simp [hsp]), List.takeWhile_cons_of_neg (by simp [hsp]),
    List.append_nil, List.append_nil] at hrun
  subst hrun
  exact ⟨rfl, List.cons_injective (List.append_cancel_left h)⟩

/-! ## What a rewrite with a well-formed version keeps -/

section WellFormed

variable {v : List Char} (hv : Version.isWellFormed v = true)
include hv

theorem inBannerRun_of_isWellFormed : ∀ c ∈ v, inBannerRun c := fun c hc => by
  simp [inBannerRun, Version.isBlank_of_isVersionChar (Version.isVersionChar_of_isWellFormed hv c hc)]

/-- A text whose rewrite gives it back finds no `.App` to rename: the new banner and the new
    coordinate hold no `A`, so they cannot make up for the `A` that a rename takes out. -/
theorem entry_find?_of_rewrite_eq_self {s : List Char} (h : rewrite s v false = .ok s) :
    entry.find? (coordinate.replaceFirst (fun _ => coordinateTemplate v)
      (banner.replaceFirst (fun _ => bannerTemplate v) s)) = none := by
  rw [rewrite_of_isWellFormed hv] at h
  cases hf : entry.find? (coordinate.replaceFirst (fun _ => coordinateTemplate v)
      (banner.replaceFirst (fun _ => bannerTemplate v) s)) with
  | none => rfl
  | some f =>
    have hA := count_renameEntryPoint hf
    have hs : renameEntryPoint (coordinate.replaceFirst (fun _ => coordinateTemplate v)
        (banner.replaceFirst (fun _ => bannerTemplate v) s)) = s := Except.ok.inj h
    rw [hs] at hA
    have h2 := Pattern.count_replaceFirst_le (p := coordinate)
      (fun _ => not_mem_coordinateTemplate hv (c := 'A') (by decide) (by decide))
      (banner.replaceFirst (fun _ => bannerTemplate v) s)
    have h1 := Pattern.count_replaceFirst_le (p := banner)
      (fun _ => not_mem_bannerTemplate hv (c := 'A') (by decide) (by decide)) s
    omega

/-- A banner cannot start inside a coordinate that the new coordinate takes the place of: the
    new coordinate holds no `U`. -/
theorem banner_inside_coordinate_ne {u w a X S : List Char}
    (hm : coordinateAt (u ++ w ++ a) = some (u ++ w, a)) (hX : X.head? = some 'U') :
    u ++ (X ++ S) ≠ coordinateTemplate v ++ a := by
  intro he
  rcases List.append_eq_append_iff.1 he with ⟨a', hT, hXS⟩ | ⟨c', rfl, -⟩
  · cases a' with
    | nil =>
      -- the coordinate would start with the new one
      rw [List.append_nil] at hT
      subst hT
      exact coordinate_ne_template hm (x := a) (z := w ++ a) (List.append_assoc _ _ _)
    | cons d a' =>
      -- the banner's `U` would stand in the new coordinate
      obtain ⟨X', rfl⟩ : ∃ X', X = 'U' :: X' := by
        cases X with
        | nil => cases hX
        | cons e X' => exact ⟨X', by rw [Option.some.inj hX]⟩
      simp only [List.cons_append, List.cons.injEq] at hXS
      have hU : 'U' ∈ coordinateTemplate v := by rw [hT, hXS.1]; simp
      exact not_mem_coordinateTemplate hv (by decide) (by decide) hU
  · exact coordinate_ne_template (v := v) hm (x := a) (z := c' ++ (w ++ a)) (by simp)

/-- The new coordinate never gives back the text that the new banner changed: when the text
    after the new banner holds a coordinate, replacing it changes the text. -/
theorem coordinate_find?_of_replace_eq {s : List Char}
    (h : coordinate.replaceFirst (fun _ => coordinateTemplate v)
      (banner.replaceFirst (fun _ => bannerTemplate v) s) = s) :
    coordinate.find? (banner.replaceFirst (fun _ => bannerTemplate v) s) = none := by
  cases hc : coordinate.find? (banner.replaceFirst (fun _ => bannerTemplate v) s) with
  | none => rfl
  | some f =>
    exfalso
    obtain ⟨b, m, a⟩ := f
    obtain ⟨hs1, hm, -⟩ := Pattern.find?_eq_some_iff.1 hc
    rw [Pattern.replaceFirst_of_find? hc] at h
    dsimp only at hs1 hm h
    rw [List.append_assoc] at h
    cases hb : banner.find? s with
    | none =>
      -- no banner: the coordinate stands in the text itself
      rw [banner.replaceFirst_of_find?_none _ hb] at hs1
      rw [hs1] at h
      exact coordinate_ne_template hm (List.append_cancel_left h).symm
    | some fb =>
      obtain ⟨P, X, S⟩ := fb
      obtain ⟨hs, hX, -⟩ := Pattern.find?_eq_some_iff.1 hb
      rw [Pattern.replaceFirst_of_find? hb] at hs1
      dsimp only at hs hX hs1
      obtain ⟨run, -, hrun, hXeq, -⟩ := banner_matchAt_eq hX
      rw [List.append_assoc] at hs1
      rw [hs] at h
      rcases pieces_cases hs1 with ⟨mid, rfl, rfl⟩ | ⟨mid, rfl, rfl⟩ |
          ⟨u, w, -, hw, hB, -, hwS⟩ | ⟨u, w, -, rfl, rfl, -⟩
      · -- the coordinate lies after the new banner: the old banner is the new one
        simp only [List.append_assoc, List.append_cancel_left_eq] at h
        have h' : bannerLead ++ v ++ [' '] ++ (mid ++ (coordinateTemplate v ++ a)) =
            bannerLead ++ run ++ [' '] ++ (mid ++ (m ++ a)) := by
          show bannerTemplate v ++ _ = _
          rw [← hXeq]
          exact h
        obtain ⟨-, hrest⟩ := banner_append_inj (inBannerRun_of_isWellFormed hv) hrun h'
        exact coordinate_ne_template hm (List.append_cancel_left hrest).symm
      · -- the coordinate lies before the new banner, where the text is as it was
        simp only [List.append_assoc, List.append_cancel_left_eq] at h
        exact coordinate_ne_template hm h.symm
      · -- the coordinate opens with a quote inside the new banner, which holds none
        obtain ⟨q, run', hq, -, rfl, -⟩ := coordinateAt_eq_some_iff.1 hm
        obtain ⟨d, w', rfl⟩ := List.exists_cons_of_ne_nil hw
        simp only [List.cons_append, List.cons.injEq] at hwS
        have hqB : q ∈ bannerTemplate v := by rw [hB, ← hwS.1]; simp
        rw [(bannerText_bannerTemplate hv).no_quote q hqB] at hq
        cases hq
      · -- the new banner starts inside the coordinate, at the place of the old one
        simp only [List.append_assoc, List.append_cancel_left_eq] at h
        have hXU : X.head? = some 'U' := by rw [hXeq]; rfl
        exact banner_inside_coordinate_ne hv (by simpa using hm) hXU h.symm

/-- A rewrite gives back exactly the texts where it has nothing to do: the first banner, if
    any, is the new banner, there is no coordinate and, for an application, no `.App`. -/
theorem rewrite_eq_self_iff {s : List Char} {lib : Bool} :
    rewrite s v lib = .ok s ↔ (∀ f, banner.find? s = some f → f.matched = bannerTemplate v) ∧
      coordinate.find? s = none ∧ (lib = false → entry.find? s = none) := by
  refine ⟨fun h => ?_, fun ⟨hb, hc, he⟩ => rewrite_of_migrated hv hb hc he⟩
  -- the banner step and the coordinate step give back the text, and the rename finds nothing
  have h2 : coordinate.replaceFirst (fun _ => coordinateTemplate v)
        (banner.replaceFirst (fun _ => bannerTemplate v) s) = s ∧
      (lib = false → entry.find? (coordinate.replaceFirst (fun _ => coordinateTemplate v)
        (banner.replaceFirst (fun _ => bannerTemplate v) s)) = none) := by
    cases lib
    · have he := entry_find?_of_rewrite_eq_self hv h
      rw [rewrite_of_isWellFormed hv] at h
      exact ⟨(renameEntryPoint_of_find?_none he).symm.trans (Except.ok.inj h), fun _ => he⟩
    · rw [rewrite_of_isWellFormed hv] at h
      exact ⟨Except.ok.inj h, by simp⟩
  have hc1 := coordinate_find?_of_replace_eq hv h2.1
  have h1 : banner.replaceFirst (fun _ => bannerTemplate v) s = s :=
    (coordinate.replaceFirst_of_find?_none _ hc1).symm.trans h2.1
  refine ⟨fun f hf => ?_, h1 ▸ hc1, fun hl => h2.1 ▸ h2.2 hl⟩
  -- the first banner is put back in its own place
  rw [banner.replaceFirst_of_find? hf] at h1
  conv at h1 => rhs; rw [← banner.find?_text hf]
  exact (List.append_cancel_left (List.append_cancel_right h1)).symm

end WellFormed

/-! ## Warnings and settled texts -/

/-- Every `.App` of the text ends a word: the rename and the warning see the same ones. -/
def WholeEntries (t : List Char) : Prop :=
  ∀ pre post, t = pre ++ (legacyEntry ++ post) → endsWord post = true

theorem legacyReferenceAt_eq_none_of_entryAt {s : List Char} (h : entryAt s = none) :
    legacyReferenceAt s = none := by
  rw [entryAt_eq_none_iff] at h
  simp [legacyReferenceAt, h]

/-- A text without `.App` holds no legacy reference. -/
theorem legacyReference_find?_eq_none {t : List Char} (h : entry.find? t = none) :
    legacyReference.find? t = none :=
  Pattern.find?_eq_none_iff_drop.2 fun j =>
    legacyReferenceAt_eq_none_of_entryAt (Pattern.find?_eq_none_iff_drop.1 h j)

/-- In a text whose every `.App` ends a word, a `.App` is a legacy reference. -/
theorem entry_find?_eq_none {t : List Char} (ht : WholeEntries t)
    (h : legacyReference.find? t = none) : entry.find? t = none := by
  refine Pattern.find?_eq_none_iff_drop.2 fun j => ?_
  cases he : entryAt (t.drop j) with
  | none => exact he
  | some mr =>
    obtain ⟨m, r⟩ := mr
    obtain ⟨-, hr⟩ := entryAt_eq_some_iff.1 he
    have hw := ht (t.take j) r (by rw [← hr, List.take_append_drop])
    have hl := Pattern.find?_eq_none_iff_drop.1 h j
    simp [legacyReference, legacyReferenceAt, hr, stripPrefix?_eq_some_iff.2 rfl, hw] at hl

theorem wholeEntries_of_find?_eq_none {t : List Char} (h : entry.find? t = none) :
    WholeEntries t := by
  intro pre post ht
  have he := Pattern.find?_eq_none_iff_drop.1 h pre.length
  rw [ht, List.drop_left, entry_matchAt, entryAt_legacyEntry] at he
  cases he

/-- A rewritten text leaves no warning and has the new banner first exactly when a second
    rewrite gives it back, provided every `.App` of an application's text ends a word. -/
theorem rewritten_settled_iff (t : List Char) (v : String) (lib : Bool)
    (hv : Version.validate v = .ok v) :
    ∃ t1, rewrite t v.toList lib = .ok t1 ∧
      ((lib = false → WholeEntries t1) →
        (rewrite t1 v.toList lib = .ok t1 ↔ leftovers t1 lib = [] ∧
          ∀ f, banner.find? t1 = some f → f.matched = bannerTemplate v.toList)) := by
  have hwf := (Version.validate_eq_ok_iff.1 hv).1
  refine ⟨_, rewrite_of_isWellFormed hwf t lib, fun hwhole => ?_⟩
  rw [rewrite_eq_self_iff hwf, leftovers_eq_nil_iff]
  constructor
  · rintro ⟨hb, hc, he⟩
    exact ⟨⟨hc, fun hl => legacyReference_find?_eq_none (he hl)⟩, hb⟩
  · rintro ⟨⟨hc, hl⟩, hb⟩
    exact ⟨hb, hc, fun hlib => entry_find?_eq_none (hwhole hlib) (hl hlib)⟩

/-- An application whose rewrite renames its only `.App`: the rewritten text has none, and it
    is settled. -/
theorem rewritten_settled_app :
    Version.validate "3.3.1" = .ok "3.3.1" ∧
      rewrite "Use Scala 2.13 x\nmainClass = 'a.App'\n".toList "3.3.1".toList false =
        .ok "Use Scala 3.3.1 x\nmainClass = 'a.main'\n".toList ∧
      WholeEntries "Use Scala 3.3.1 x\nmainClass = 'a.main'\n".toList ∧
      (rewrite "Use Scala 3.3.1 x\nmainClass = 'a.main'\n".toList "3.3.1".toList false =
          .ok "Use Scala 3.3.1 x\nmainClass = 'a.main'\n".toList ↔
        leftovers "Use Scala 3.3.1 x\nmainClass = 'a.main'\n".toList false = [] ∧
          ∀ f, banner.find? "Use Scala 3.3.1 x\nmainClass = 'a.main'\n".toList = some f →
            f.matched = bannerTemplate "3.3.1".toList) := by
  obtain ⟨t1, h1, hiff⟩ :=
    rewritten_settled_iff "Use Scala 2.13 x\nmainClass = 'a.App'\n".toList "3.3.1" false (by decide)
  have ht1 : t1 = "Use Scala 3.3.1 x\nmainClass = 'a.main'\n".toList := by
    rw [rewrite_of_isWellFormed (by decide)] at h1
    exact (Except.ok.inj h1).symm.trans (by decide)
  subst ht1
  have hwhole := wholeEntries_of_find?_eq_none (t := "Use Scala 3.3.1 x\nmainClass = 'a.main'\n".toList)
    (by decide)
  exact ⟨by decide, h1, hwhole, hiff fun _ => hwhole⟩

/-- A coordinate that holds a tab makes no banner before it is replaced, and a banner after: the
    rewritten text leaves no warning, yet a second rewrite changes it. -/
theorem rewrite_exposes_banner :
    rewrite "Use Scala 'org.scala-lang:scala-library:\tb' ".toList "3.3.1".toList true =
        .ok "Use Scala \"org.scala-lang:scala3-library_3:3.3.1\" ".toList ∧
      leftovers "Use Scala \"org.scala-lang:scala3-library_3:3.3.1\" ".toList true = [] ∧
      rewrite "Use Scala \"org.scala-lang:scala3-library_3:3.3.1\" ".toList "3.3.1".toList true =
        .ok "Use Scala 3.3.1 ".toList := by
  refine ⟨?_, leftovers_eq_nil_iff.2 ⟨by decide, by simp⟩, ?_⟩
  all_goals
    rw [rewrite_of_isWellFormed (by decide)]
    exact congrArg Except.ok (by decide)

/-- A `.App` that goes on as a word is renamed but is no leftover: the rewritten text leaves no
    warning, yet a second rewrite renames the next one. -/
theorem rewrite_renames_inner_entry :
    let t := "a.Apple b.Apple".toList
    let t1 := "a.mainle b.Apple".toList
    rewrite t "3.3.1".toList false = .ok t1 ∧ leftovers t1 false = [] ∧
      rewrite t1 "3.3.1".toList false = .ok "a.mainle b.mainle".toList := by
  intro t t1
  refine ⟨?_, leftovers_eq_nil_iff.2 ⟨by decide, fun _ => by decide⟩, ?_⟩
  all_goals
    rw [rewrite_of_isWellFormed (by decide)]
    exact congrArg Except.ok (by decide)

end BuildText

end BuildMigration
