import BuildMigration.Proofs.Replacements
/-!
# A replaced banner stays in place

Replacing the first banner of a text by `Use Scala v `, for a version `v` that is a nonempty
run of non-blank characters, puts a banner where the old one stood, and that banner is the
first of the new text. A banner that started earlier would have to reach into the replaced
one, and there the old and the new text open alike, with the words `Use Scala `. A scan from
before sees no more of what follows: its lead cannot overlap these words, since no proper end
of `Use Scala ` opens it, and its run stops at their first space. So a second replacement puts
the new banner back where it is, and changes nothing.

* `bannerLead_border`: no nonempty proper end of `Use Scala ` opens it;
* `banner_clear_lead_congr`: a text cannot tell apart what follows `Use Scala ` behind it;
* `find?_replaceFirst_banner`: the new banner is the first banner, where the old one was;
* `replaceBanner_settles`: replacing the banner succeeds, keeps the banner in place, and a
  second replacement gives the text back.
-/

namespace BuildMigration.BuildText

open Text

/-! ## What a scan sees of the words `Use Scala ` -/

/-- The words that open a banner overlap themselves nowhere: a piece that both ends and opens
    them is empty or all of them. -/
theorem bannerLead_border {a : List Char} (hs : a <:+ bannerLead) (hp : a <+: bannerLead) :
    a = [] ∨ a = bannerLead := by
  have hlen := hs.length_le
  rw [List.suffix_iff_eq_drop] at hs
  rw [List.prefix_iff_eq_take] at hp
  -- one check per length of the piece
  have hcheck : ∀ n ≤ bannerLead.length,
      bannerLead.drop (bannerLead.length - n) = bannerLead.take n →
        n = 0 ∨ n = bannerLead.length := by
    rw [bannerLead_eq]
    decide
  rcases hcheck a.length hlen (hs.symm.trans hp) with h0 | hfull
  · exact .inl (List.eq_nil_of_length_eq_zero h0)
  · exact .inr (by rw [hp, hfull, List.take_length])

/-- A lead that starts before the words `Use Scala ` cannot reach into them: it lies wholly
    before them or it is not there. -/
theorem stripPrefix?_append_bannerLead {u z : List Char} (hu : u ≠ []) :
    stripPrefix? bannerLead (u ++ (bannerLead ++ z)) =
      (stripPrefix? bannerLead u).map (· ++ (bannerLead ++ z)) := by
  cases h : stripPrefix? bannerLead u with
  | some r =>
    rw [eq_append_of_stripPrefix? h, List.append_assoc, Option.map_some]
    exact stripPrefix?_eq_some_iff.2 rfl
  | none =>
    rw [Option.map_none]
    cases h' : stripPrefix? bannerLead (u ++ (bannerLead ++ z)) with
    | none => rfl
    | some r =>
      exfalso
      rcases List.append_eq_append_iff.1 (stripPrefix?_eq_some_iff.1 h') with
        ⟨a, hL, hz⟩ | ⟨c, hc, -⟩
      · -- the lead ends inside the words: the part in both ends and opens them
        have hp : a <+: bannerLead :=
          List.prefix_of_prefix_length_le ⟨r, hz.symm⟩ (List.prefix_append _ _)
            (by rw [hL, List.length_append]; omega)
        rcases bannerLead_border ⟨u, hL.symm⟩ hp with rfl | rfl
        · rw [List.append_nil] at hL
          rw [← hL, stripPrefix?_eq_some_iff.2 (List.append_nil _).symm] at h
          cases h
        · exact hu (List.append_cancel_right (hL.symm.trans (List.nil_append _).symm))
      · rw [stripPrefix?_eq_some_iff.2 hc] at h
        cases h

/-- The run of a banner that reaches the words `Use Scala ` takes `Use` from them. -/
theorem takeWhile_bannerLead (z : List Char) :
    (bannerLead ++ z).takeWhile inBannerRun = ['U', 's', 'e'] := by
  rw [bannerLead_eq]
  rfl

/-- The run of a banner that reaches the words `Use Scala ` stops at their first space. -/
theorem stopOf_bannerLead (z : List Char) : stopOf inBannerRun (bannerLead ++ z) = some ' ' := by
  rw [bannerLead_eq]
  rfl

/-- From a position before the words `Use Scala `, a banner scan decides alike whatever follows
    them. -/
theorem bannerAt_append_bannerLead_congr {u z z' : List Char} (hu : u ≠ []) :
    bannerAt (u ++ (bannerLead ++ z)) = none ↔ bannerAt (u ++ (bannerLead ++ z')) = none := by
  rw [bannerAt_eq_none_iff, bannerAt_eq_none_iff, stripPrefix?_append_bannerLead hu,
    stripPrefix?_append_bannerLead hu]
  cases stripPrefix? bannerLead u with
  | none => simp
  | some r =>
    have hrun : (bannerLead ++ z).takeWhile inBannerRun = [] ↔
        (bannerLead ++ z').takeWhile inBannerRun = [] := by
      rw [takeWhile_bannerLead, takeWhile_bannerLead]
    simp only [Option.map_some, Option.some.injEq, exists_eq_left', ne_eq,
      takeWhile_append_eq_nil_congr hrun,
      stopOf_append_congr (stopOf_bannerLead z |>.trans (stopOf_bannerLead z').symm)]

/-- A text cannot tell apart what follows the words `Use Scala ` behind it. -/
theorem banner_clear_lead_congr {a z z' : List Char} :
    banner.Clear a (bannerLead ++ z) ↔ banner.Clear a (bannerLead ++ z') := by
  induction a with
  | nil => simp
  | cons c a ih =>
    simp only [Pattern.clear_cons, banner_matchAt, ih, ← List.cons_append]
    rw [bannerAt_append_bannerLead_congr (List.cons_ne_nil c a)]

/-! ## Replacing the first banner -/

/-- Replacing the first banner by a banner of a nonempty run of non-blank characters makes that
    banner the first, in the same place. -/
theorem find?_replaceFirst_banner {t run : List Char} {f : Found} (hrun : run ≠ [])
    (hr : ∀ c ∈ run, inBannerRun c) (h : banner.find? t = some f) :
    banner.find? (banner.replaceFirst (fun _ => bannerLead ++ run ++ [' ']) t) =
      some { f with matched := bannerLead ++ run ++ [' '] } := by
  rw [Pattern.replaceFirst_of_find? h]
  obtain ⟨-, hm, hb⟩ := Pattern.find?_eq_some_iff.1 h
  obtain ⟨run₀, -, -, hm₀, -⟩ := banner_matchAt_eq hm
  rw [hm₀, List.append_assoc, List.append_assoc] at hb
  have hnew : bannerLead ++ run ++ [' '] ++ f.after = bannerLead ++ (run ++ ' ' :: f.after) := by
    simp
  rw [List.append_assoc]
  refine Pattern.find?_of_clear (hnew ▸ banner_clear_lead_congr.1 hb) ?_
  rw [banner_matchAt, hnew]
  simpa using bannerAt_lead hrun hr f.after

/-- Replacing the banner with a nonempty version free of blanks and backslashes always
    succeeds. Where the text has a banner, the first banner of the result is `Use Scala v `, at
    the place of the old one; and replacing the banner of the result gives it back. -/
theorem replaceBanner_settles {t v : List Char} (hv : v ≠ []) (hblank : ∀ c ∈ v, isBlank c = false)
    (hbs : '\\' ∉ v) :
    ∃ t', replaceBanner t v = .ok t' ∧ replaceBanner t' v = .ok t' ∧
      ∀ f, banner.find? t = some f →
        banner.find? t' = some { f with matched := bannerLead ++ v ++ [' '] } := by
  have hr : ∀ c ∈ v, inBannerRun c := fun c hc => by simp [inBannerRun, hblank c hc]
  refine ⟨_, replaceBanner_of_no_backslash hbs t, ?_, fun f hf => find?_replaceFirst_banner hv hr hf⟩
  rw [replaceBanner_of_no_backslash hbs, bannerTemplate]
  cases hf : banner.find? t with
  | none => rw [banner.replaceFirst_of_find?_none _ hf, banner.replaceFirst_of_find?_none _ hf]
  | some f =>
    -- the second replacement puts the new banner back where the first one put it
    rw [Pattern.replaceFirst_of_find? (find?_replaceFirst_banner hv hr hf),
      Pattern.replaceFirst_of_find? hf]

/-- The release version in the banner of a generated build file: the banner is replaced, and a
    second replacement keeps the text. -/
theorem replaceBanner_settles_release :
    "3.3.1".toList ≠ [] ∧ (∀ c ∈ "3.3.1".toList, isBlank c = false) ∧ '\\' ∉ "3.3.1".toList ∧
      ∃ t', replaceBanner "// Use Scala 2.13 in our library project".toList "3.3.1".toList =
          .ok t' ∧ replaceBanner t' "3.3.1".toList = .ok t' ∧
        ∀ f, banner.find? "// Use Scala 2.13 in our library project".toList = some f →
          banner.find? t' = some { f with matched := bannerLead ++ "3.3.1".toList ++ [' '] } := by
  -- a well-formed version holds digits and dots only
  have hwf : Version.isWellFormed "3.3.1".toList = true := by decide
  have hblank : ∀ c ∈ "3.3.1".toList, isBlank c = false := fun c hc =>
    Version.isBlank_of_isVersionChar (Version.isVersionChar_of_isWellFormed hwf c hc)
  have hbs := Version.backslash_not_mem_of_isWellFormed hwf
  exact ⟨by decide, hblank, hbs, replaceBanner_settles (by decide) hblank hbs⟩

end BuildMigration.BuildText
