import BuildMigration.Proofs.SandboxRun
/-!
# Where the build file is found

Locating the build file is a search along the *probe order*: the given path itself, taken as an
application's build file, then the four candidates under it, the application's Groovy and
Kotlin build files before the library's (`locate_eq`). Each probe asks whether its path names a
regular file. The first that answers yes gives the build file; when every probe answers no, the
failure names the path and all four candidates.

A probe can also fail without an answer: a path with a name of more than 255 bytes, or whose
text has 4096 bytes or more, cannot be probed at all. The search then stops at the first such
probe with its fault, whatever the later probes would answer: under a name of 256 bytes no path
is a regular file, yet the search faults instead of reporting a missing build file
(`locate_long_name_faults`). So the search reports a missing build file exactly when no path of
the probe order is a regular file, provided every probe that the search reaches answers.

* `firstFile_eq_ok_some_iff`, `firstFile_eq_ok_none_iff`, `firstFile_eq_error_iff`: a search
  along a list answers with its first yes, with no when every probe says no, or with the first
  fault before any yes;
* `locate_eq`: locating is the search along the probe order;
* `isLibrary_iff_of_first`: the first candidate with a property is a library's exactly when
  neither application candidate has it;
* `isFile_eq_error_iff`: a probe fails only on a path too long to resolve, and
  `locate_of_long_name`: under a name too long, every probe fails;
* `false_of_reached`: where every probe reached answers, probes none of which says yes all say no;
* `locate_first_regular`: when every probe reached answers, the build file is the first regular
  file in the probe order, a library's exactly when neither application candidate is one, and
  the failure lists the four candidates in their order.
-/

namespace BuildMigration

theorem MigrationError.message_noBuildFile (under : PathName) (probed : List PathName) :
    (MigrationError.noBuildFile under probed).message = "No Gradle build file found under " ++
      under.toString ++ " (looked for " ++ ", ".intercalate (probed.map PathName.toString) ++ ")" :=
  rfl

/-- The first of a list that is not in `pre`, and the rest after it, split off the front. -/
theorem exists_split_cons_iff {α : Type} {c b : α} {bs : List α} {P : α → Prop} :
    (∃ pre post, c :: bs = pre ++ b :: post ∧ ∀ d ∈ pre, P d) ↔
      c = b ∨ (P c ∧ ∃ pre post, bs = pre ++ b :: post ∧ ∀ d ∈ pre, P d) := by
  constructor
  · rintro ⟨pre, post, h, hpre⟩
    rcases List.cons_eq_append_iff.1 h with ⟨rfl, hb⟩ | ⟨pre', rfl, hbs⟩
    · exact .inl (List.cons.inj hb).1.symm
    · exact .inr ⟨hpre c List.mem_cons_self, pre', post, hbs,
        fun d hd => hpre d (List.mem_cons_of_mem c hd)⟩
  · rintro (rfl | ⟨hc, pre, post, rfl, hpre⟩)
    · exact ⟨[], bs, rfl, by simp⟩
    · refine ⟨c :: pre, post, rfl, fun d hd => ?_⟩
      rcases List.mem_cons.1 hd with rfl | hd
      · exact hc
      · exact hpre d hd

namespace BuildFile

/-! ## A search along a list of build files -/

section Search

variable {f : PathName → Except FileFault Bool} {b : BuildFile} {bs : List BuildFile}

theorem firstFile_cons_of_true (h : f b.path = .ok true) : firstFile f (b :: bs) = .ok (some b) := by
  simp only [firstFile, h, ok_bind, if_true]
  rfl

theorem firstFile_cons_of_false (h : f b.path = .ok false) : firstFile f (b :: bs) = firstFile f bs := by
  simp only [firstFile, h, ok_bind, Bool.false_eq_true, if_false]

theorem firstFile_cons_of_error {e : FileFault} (h : f b.path = .error e) :
    firstFile f (b :: bs) = .error e := by
  simp only [firstFile, h, error_bind]

/-- A search answers with a build file exactly when it is the first whose probe says yes, every
    probe before it saying no. -/
theorem firstFile_eq_ok_some_iff {bs : List BuildFile} :
    firstFile f bs = .ok (some b) ↔
      f b.path = .ok true ∧ ∃ pre post, bs = pre ++ b :: post ∧ ∀ c ∈ pre, f c.path = .ok false := by
  induction bs with
  | nil => simp [firstFile, pure_eq_ok]
  | cons c bs ih =>
    rw [exists_split_cons_iff]
    cases hc : f c.path with
    | error e =>
      rw [firstFile_cons_of_error hc]
      -- a probe that fails is neither the yes nor a no before it
      simp only [reduceCtorEq, false_iff, not_and, false_and, or_false]
      rintro hb rfl
      rw [hb] at hc
      cases hc
    | ok found =>
      cases found
      · rw [firstFile_cons_of_false hc, ih]
        constructor
        · rintro ⟨hb, hrest⟩
          exact ⟨hb, .inr ⟨rfl, hrest⟩⟩
        · rintro ⟨hb, rfl | ⟨-, hrest⟩⟩
          · rw [hb] at hc
            cases hc
          · exact ⟨hb, hrest⟩
      · rw [firstFile_cons_of_true hc, Except.ok.injEq, Option.some.injEq]
        constructor
        · rintro rfl
          exact ⟨hc, .inl rfl⟩
        · rintro ⟨-, rfl | ⟨hno, -⟩⟩
          · rfl
          · cases hno

/-- A search answers that there is no build file exactly when every probe says no. -/
theorem firstFile_eq_ok_none_iff {bs : List BuildFile} :
    firstFile f bs = .ok none ↔ ∀ c ∈ bs, f c.path = .ok false := by
  induction bs with
  | nil => simp [firstFile, pure_eq_ok]
  | cons c bs ih =>
    rw [List.forall_mem_cons]
    cases hc : f c.path with
    | error e => simp [firstFile_cons_of_error hc]
    | ok found =>
      cases found
      · rw [firstFile_cons_of_false hc, ih]
        simp
      · simp [firstFile_cons_of_true hc]

/-- A search fails exactly when a probe fails before any probe says yes. -/
theorem firstFile_eq_error_iff {bs : List BuildFile} {e : FileFault} :
    firstFile f bs = .error e ↔
      ∃ c, f c.path = .error e ∧ ∃ pre post, bs = pre ++ c :: post ∧ ∀ d ∈ pre, f d.path = .ok false := by
  induction bs with
  | nil => simp [firstFile, pure_eq_ok]
  | cons c bs ih =>
    simp only [exists_split_cons_iff]
    cases hc : f c.path with
    | error e' =>
      rw [firstFile_cons_of_error hc, Except.error.injEq]
      constructor
      · rintro rfl
        exact ⟨c, hc, .inl rfl⟩
      · rintro ⟨d, hd, rfl | ⟨hno, -⟩⟩
        · rw [hc] at hd
          exact (Except.error.inj hd)
        · cases hno
    | ok found =>
      cases found
      · rw [firstFile_cons_of_false hc, ih]
        constructor
        · rintro ⟨d, hd, hrest⟩
          exact ⟨d, hd, .inr ⟨rfl, hrest⟩⟩
        · rintro ⟨d, hd, rfl | ⟨-, hrest⟩⟩
          · rw [hc] at hd
            cases hd
          · exact ⟨d, hd, hrest⟩
      · rw [firstFile_cons_of_true hc]
        simp only [reduceCtorEq, false_iff, not_exists, not_and]
        rintro d hd (rfl | ⟨hno, -⟩)
        · rw [hc] at hd
          cases hd
        · cases hno

/-- Where every probe that a search reaches answers, a prefix of probes none of which says yes
    is a prefix of probes that all say no: each was reached, since those before it said no. -/
theorem false_of_reached {l pre rest : List BuildFile}
    (hprobe : ∀ pre b post, l = pre ++ b :: post → (∀ c ∈ pre, f c.path = .ok false) →
      ∃ r, f b.path = .ok r)
    (hl : l = pre ++ rest) (hpre : ∀ c ∈ pre, f c.path ≠ .ok true) :
    ∀ c ∈ pre, f c.path = .ok false := by
  induction pre generalizing l with
  | nil => simp
  | cons c pre ih =>
    -- the first probe is reached at once; its answer is no, and the search goes on past it
    have hc : f c.path = .ok false := by
      obtain ⟨r, hr⟩ := hprobe [] c (pre ++ rest) (by simpa using hl) (by simp)
      cases r
      · exact hr
      · exact absurd hr (hpre c List.mem_cons_self)
    refine List.forall_mem_cons.2 ⟨hc, @ih (pre ++ rest) (fun pre' b post hl' hpre' => ?_) rfl
      fun d hd => hpre d (List.mem_cons_of_mem c hd)⟩
    exact hprobe (c :: pre') b post (by rw [hl, List.cons_append, hl']; rfl)
      (List.forall_mem_cons.2 ⟨hc, hpre'⟩)

end Search

/-! ## Locating the build file -/

/-- Locating the build file is a search along the probe order: the path itself as an
    application's build file, then the candidates under it. -/
theorem locate_eq (f : PathName → Except FileFault Bool) (p : PathName) :
    locate f p = (firstFile f (⟨p, false⟩ :: candidates p)).map fun
      | some b => .ok b
      | none => .error (.noBuildFile p ((candidates p).map BuildFile.path)) := by
  cases hp : f p with
  | error e =>
    rw [firstFile_cons_of_error hp]
    simp [locate, hp, error_bind, Except.map]
  | ok found =>
    cases found
    · rw [firstFile_cons_of_false hp]
      simp only [locate, hp, ok_bind, Bool.false_eq_true, if_false]
      cases firstFile f (candidates p) with
      | error e => rfl
      | ok o => cases o <;> rfl
    · rw [firstFile_cons_of_true hp]
      simp [locate, hp, ok_bind, Except.map, pure_eq_ok]

theorem locate_eq_ok_ok_iff {f : PathName → Except FileFault Bool} {p : PathName} {b : BuildFile} :
    locate f p = .ok (.ok b) ↔ firstFile f (⟨p, false⟩ :: candidates p) = .ok (some b) := by
  rw [locate_eq]
  cases firstFile f (⟨p, false⟩ :: candidates p) with
  | error e => simp [Except.map]
  | ok o => cases o <;> simp [Except.map]

theorem locate_eq_ok_error_iff {f : PathName → Except FileFault Bool} {p : PathName}
    {e : MigrationError} :
    locate f p = .ok (.error e) ↔ firstFile f (⟨p, false⟩ :: candidates p) = .ok none ∧
      e = .noBuildFile p ((candidates p).map BuildFile.path) := by
  rw [locate_eq]
  cases firstFile f (⟨p, false⟩ :: candidates p) with
  | error e => simp [Except.map]
  | ok o => cases o <;> simp [Except.map, eq_comm]

/-- The candidates, written out: the application's Groovy and Kotlin build files, then the
    library's. -/
theorem candidates_eq (p : PathName) :
    candidates p = [⟨p.joinAll ["app", "build.gradle"], false⟩, ⟨p.joinAll ["app", "build.gradle.kts"], false⟩,
      ⟨p.joinAll ["lib", "build.gradle"], true⟩, ⟨p.joinAll ["lib", "build.gradle.kts"], true⟩] := rfl

/-- The found candidate is a library's exactly when it comes after both application
    candidates. -/
theorem isLibrary_iff_of_candidates_eq {p : PathName} {pre post : List BuildFile} {b : BuildFile}
    (h : candidates p = pre ++ b :: post) : b.isLibrary = true ↔ 2 ≤ pre.length := by
  rw [candidates_eq] at h
  -- the found candidate stands at the place the length of `pre` names
  rcases pre with _ | ⟨x, _ | ⟨y, _ | ⟨z, _ | ⟨w, pre⟩⟩⟩⟩ <;>
    simp only [List.nil_append, List.cons_append, List.cons.injEq] at h
  · obtain ⟨rfl, -⟩ := h
    simp
  · obtain ⟨-, rfl, -⟩ := h
    simp
  · obtain ⟨-, -, rfl, -⟩ := h
    simp
  · obtain ⟨-, -, -, rfl, -⟩ := h
    simp
  · obtain ⟨-, -, -, -, h⟩ := h
    simp at h

/-- The first candidate with a property is a library's exactly when neither application
    candidate has it. -/
theorem isLibrary_iff_of_first {p : PathName} {pre post : List BuildFile} {b : BuildFile}
    {P : BuildFile → Prop} (hsplit : candidates p = pre ++ b :: post) (hpre : ∀ c ∈ pre, ¬P c)
    (hb : P b) : b.isLibrary = true ↔ ∀ c ∈ (candidates p).take 2, ¬P c := by
  have htake : (candidates p).take pre.length = pre := by rw [hsplit, List.take_left' rfl]
  have hget : (candidates p)[pre.length]? = some b := by
    rw [hsplit, List.getElem?_append_right (Nat.le_refl _), Nat.sub_self]
    rfl
  rw [isLibrary_iff_of_candidates_eq hsplit]
  constructor
  · -- both application candidates come before the found one
    intro h2 c hc
    exact hpre c (htake ▸ List.take_subset_take_left _ h2 hc)
  · -- neither application candidate has the property, so the found one is not among them
    intro happ
    by_contra hlt
    have hlt' : pre.length < 2 := by omega
    have hmem : b ∈ (candidates p).take 2 :=
      List.mem_of_getElem? (by rw [List.getElem?_take_of_lt hlt', hget])
    exact happ b hmem hb

end BuildFile

namespace FileTree

/-- A probe fails only on a path that is too long to resolve: a name of more than 255 bytes on
    the way, or a text of 4096 bytes or more. -/
theorem isFile_eq_error_iff {t : FileTree} {p : PathName} {e : FileFault} :
    t.isFile p = .error e ↔ p.holdsNul = false ∧ t.resolve p = .tooLong ∧ e = .nameTooLong p := by
  unfold isFile
  by_cases hn : p.holdsNul
  · simp [hn]
  · simp only [hn, Bool.false_eq_true, if_false, true_and]
    cases t.resolve p with
    | reached pl entry =>
      cases entry with
      | none => simp
      | some en => cases en <;> simp
    | missing => simp
    | blocked => simp
    | tooLong => simp [eq_comm]

/-- From a directory, a walk that meets a name longer than a name may be goes no further. -/
theorem walk_long_name {t : FileTree} {here : Place} {x : String} {xs : List String}
    (hdir : t.entryAt here = some .directory) (hx : x ≠ "..")
    (hlong : maxNameBytes < x.utf8ByteSize) : t.walk here (x :: xs) = .tooLong := by
  simp [walk, hdir, hx, hlong]

/-- A relative path whose first name is longer than a name may be cannot be resolved: its text
    is too long, or the walk from the root stops at that name. -/
theorem resolve_long_name {t : FileTree} {x : String} {xs : List String}
    (hroot : t.get? [] = some .directory) (hx : x ≠ "..") (hlong : maxNameBytes < x.utf8ByteSize) :
    t.resolve ⟨.relative, x :: xs⟩ = .tooLong := by
  unfold resolve
  split
  · rfl
  · exact walk_long_name hroot hx hlong

end FileTree

namespace BuildFile

/-- When every probe that the search reaches answers: a path that is a regular file is its own
    build file, an application's; otherwise the build file is the first candidate that is a
    regular file (a directory is none), and it is a library's exactly when neither application
    candidate is a regular file; the search fails exactly when no path of the probe order is a
    regular file, with a message that names the path and the four candidates in their order; and
    the path found is a regular file. -/
theorem locate_first_regular (t : FileTree) (p : PathName)
    (hprobe : ∀ pre b post, (⟨p, false⟩ :: candidates p : List BuildFile) = pre ++ b :: post →
      (∀ c ∈ pre, t.isFile c.path = .ok false) → ∃ r, t.isFile b.path = .ok r) :
    (t.isFile p = .ok true → locate t.isFile p = .ok (.ok ⟨p, false⟩)) ∧
    (t.isFile p ≠ .ok true → ∀ pre b post, candidates p = pre ++ b :: post →
        (∀ c ∈ pre, t.isFile c.path ≠ .ok true) → t.isFile b.path = .ok true →
        locate t.isFile p = .ok (.ok b) ∧
          (b.isLibrary = true ↔ ∀ c ∈ (candidates p).take 2, t.isFile c.path ≠ .ok true)) ∧
    ((∃ e, locate t.isFile p = .ok (.error e)) ↔
        ∀ b ∈ (⟨p, false⟩ :: candidates p : List BuildFile), t.isFile b.path ≠ .ok true) ∧
    (∀ e, locate t.isFile p = .ok (.error e) →
        e.message = "No Gradle build file found under " ++ p.toString ++ " (looked for " ++
          (p.joinAll ["app", "build.gradle"]).toString ++ ", " ++
          (p.joinAll ["app", "build.gradle.kts"]).toString ++ ", " ++
          (p.joinAll ["lib", "build.gradle"]).toString ++ ", " ++
          (p.joinAll ["lib", "build.gradle.kts"]).toString ++ ")") ∧
    (∀ b, locate t.isFile p = .ok (.ok b) → t.isFile b.path = .ok true) := by
  refine ⟨locate_of_isFile, fun hp pre b post hsplit hpre hb => ?_, ?_, ?_,
    fun b h => (locate_eq_ok h).1⟩
  · -- the first regular candidate: the path and the candidates before it were reached, and
    -- each said no
    have hl : (⟨p, false⟩ :: candidates p : List BuildFile) = (⟨p, false⟩ :: pre) ++ b :: post := by
      rw [hsplit]
      rfl
    have hno := false_of_reached hprobe hl (List.forall_mem_cons.2 ⟨hp, hpre⟩)
    have hfirst : firstFile t.isFile (⟨p, false⟩ :: candidates p) = .ok (some b) := by
      rw [firstFile_cons_of_false (hno _ List.mem_cons_self)]
      exact firstFile_eq_ok_some_iff.2
        ⟨hb, pre, post, hsplit, fun c hc => hno c (List.mem_cons_of_mem _ hc)⟩
    exact ⟨locate_eq_ok_ok_iff.2 hfirst, isLibrary_iff_of_first hsplit hpre hb⟩
  · constructor
    · -- a failure is a search in which every probe said no
      rintro ⟨e, he⟩ b hb hyes
      rw [firstFile_eq_ok_none_iff.1 (locate_eq_ok_error_iff.1 he).1 b hb] at hyes
      cases hyes
    · -- no path is a regular file: the search reaches every probe, and each says no
      intro hall
      exact ⟨_, locate_eq_ok_error_iff.2
        ⟨firstFile_eq_ok_none_iff.2 (false_of_reached hprobe (List.append_nil _).symm hall), rfl⟩⟩
  · intro e he
    rw [(locate_eq_ok_error_iff.1 he).2, MigrationError.message_noBuildFile, candidates_eq]
    simp only [List.map_cons, List.map_nil, String.intercalate_cons_cons,
      String.intercalate_singleton, String.append_assoc]

/-- Under a tree whose one regular file is the library's Groovy build file, and where the
    application's "build.gradle" is a directory, every probe answers, the library's build file
    is found, and neither application candidate is a regular file. -/
theorem locate_first_regular_lib :
    let t : FileTree :=
      ⟨[(["lib", "build.gradle"], ByteArray.empty)], [["app", "build.gradle"]], .bare⟩
    (∀ pre b post, (⟨PathName.here, false⟩ :: candidates PathName.here : List BuildFile) =
        pre ++ b :: post → (∀ c ∈ pre, t.isFile c.path = .ok false) →
        ∃ r, t.isFile b.path = .ok r) ∧
      locate t.isFile PathName.here =
          .ok (.ok ⟨PathName.here.joinAll ["lib", "build.gradle"], true⟩) ∧
        ∀ c ∈ (candidates PathName.here).take 2, t.isFile c.path ≠ .ok true := by
  intro t
  have hhere : t.isFile PathName.here = .ok false := by cbv
  have happ : t.isFile (PathName.here.joinAll ["app", "build.gradle"]) = .ok false := by cbv
  have happKts : t.isFile (PathName.here.joinAll ["app", "build.gradle.kts"]) = .ok false := by
    -- evaluated whole, the failed directory test at this name is slow: settle the entry first
    have hget : t.get? ["app", "build.gradle.kts"] = none := by
      rw [FileTree.get?, show t.isDirectory ["app", "build.gradle.kts"] = false by cbv]
      cbv
    rw [show PathName.here.joinAll ["app", "build.gradle.kts"] =
      ⟨.relative, ["app", "build.gradle.kts"]⟩ by cbv]
    simp only [FileTree.isFile, FileTree.resolve, FileTree.walk, FileTree.entryAt, Place.child,
      List.nil_append, List.cons_append, hget]
    cbv
  have hlib : t.isFile (PathName.here.joinAll ["lib", "build.gradle"]) = .ok true := by cbv
  have hlibKts : t.isFile (PathName.here.joinAll ["lib", "build.gradle.kts"]) = .ok false := by
    cbv
  have hall : ∀ b ∈ (⟨PathName.here, false⟩ :: candidates PathName.here : List BuildFile),
      ∃ r, t.isFile b.path = .ok r := by
    rw [candidates_eq]
    simp only [List.forall_mem_cons, List.not_mem_nil, IsEmpty.forall_iff, implies_true, and_true]
    exact ⟨⟨_, hhere⟩, ⟨_, happ⟩, ⟨_, happKts⟩, ⟨_, hlib⟩, ⟨_, hlibKts⟩⟩
  have hprobe : ∀ pre b post, (⟨PathName.here, false⟩ :: candidates PathName.here :
      List BuildFile) = pre ++ b :: post → (∀ c ∈ pre, t.isFile c.path = .ok false) →
      ∃ r, t.isFile b.path = .ok r := fun pre b post hsplit _ =>
    hall b (by rw [hsplit]; exact List.mem_append_right _ List.mem_cons_self)
  obtain ⟨hlocate, hlibrary⟩ := (locate_first_regular t PathName.here hprobe).2.1
    (by rw [hhere]; simp)
    [⟨PathName.here.joinAll ["app", "build.gradle"], false⟩,
      ⟨PathName.here.joinAll ["app", "build.gradle.kts"], false⟩] _ _ (candidates_eq _)
    (by simp [happ, happKts]) hlib
  exact ⟨hprobe, hlocate, hlibrary.1 rfl⟩

/-- Under a relative path of one name longer than a name may be, every probe of the probe order
    faults, and locating the build file fails with the fault of the first probe. -/
theorem locate_of_long_name {t : FileTree} {x : String} (hroot : t.get? [] = some .directory)
    (hx : x ≠ "..") (hlong : maxNameBytes < x.utf8ByteSize) (hnul : x.contains (Char.ofNat 0) = false) :
    (∀ b ∈ (⟨⟨.relative, [x]⟩, false⟩ :: candidates ⟨.relative, [x]⟩ : List BuildFile),
        ∃ e, t.isFile b.path = .error e) ∧
      locate t.isFile ⟨.relative, [x]⟩ = .error (.nameTooLong ⟨.relative, [x]⟩) := by
  -- each path of the probe order opens with the long name
  have hfault : ∀ xs : List String, (∀ y ∈ xs, y.contains (Char.ofNat 0) = false) →
      t.isFile ⟨.relative, x :: xs⟩ = .error (.nameTooLong ⟨.relative, x :: xs⟩) := by
    intro xs hxs
    refine FileTree.isFile_eq_error_iff.2 ⟨?_, FileTree.resolve_long_name hroot hx hlong, rfl⟩
    simp only [PathName.holdsNul, List.any_cons, hnul, Bool.false_or, List.any_eq_false,
      Bool.not_eq_true]
    exact hxs
  refine ⟨fun b hb => ?_, ?_⟩
  · rw [candidates_eq] at hb
    simp only [List.mem_cons, List.not_mem_nil, or_false] at hb
    rcases hb with rfl | rfl | rfl | rfl | rfl
    · exact ⟨_, hfault [] (by simp)⟩
    · exact ⟨_, hfault ["app", "build.gradle"] (by simp)⟩
    · exact ⟨_, hfault ["app", "build.gradle.kts"] (by simp)⟩
    · exact ⟨_, hfault ["lib", "build.gradle"] (by simp)⟩
    · exact ⟨_, hfault ["lib", "build.gradle.kts"] (by simp)⟩
  · rw [locate_eq, firstFile_cons_of_error (hfault [] (by simp))]
    rfl

/-- A name of 256 bytes cannot be probed. Under it no path of the probe order is a regular
    file, yet locating the build file fails with the fault of the first probe, and not with a
    missing build file. -/
theorem locate_long_name_faults :
    let p : PathName := ⟨.relative, [String.ofList (List.replicate 256 'a')]⟩
    (∀ b ∈ (⟨p, false⟩ :: candidates p : List BuildFile),
        (FileTree.empty .bare).isFile b.path ≠ .ok true) ∧
      locate (FileTree.empty .bare).isFile p = .error (.nameTooLong p) := by
  intro p
  have hx : String.ofList (List.replicate 256 'a') ≠ ".." := by decide +kernel
  have hlong : maxNameBytes < (String.ofList (List.replicate 256 'a')).utf8ByteSize := by
    decide +kernel
  have hnul : (String.ofList (List.replicate 256 'a')).contains (Char.ofNat 0) = false := by
    simp only [String.contains_char_eq, String.toList_ofList, List.mem_replicate]
    decide
  have hroot : (FileTree.empty .bare).get? [] = some .directory := rfl
  obtain ⟨hfault, hlocate⟩ := locate_of_long_name hroot hx hlong hnul
  refine ⟨fun b hb hyes => ?_, hlocate⟩
  obtain ⟨e, he⟩ := hfault b hb
  rw [he] at hyes
  cases hyes

end BuildFile

end BuildMigration
