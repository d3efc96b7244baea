import BuildMigration.Proofs.Effects
import BuildMigration.Proofs.EntryPoint
import BuildMigration.Proofs.MainSourceFile
/-!
# Running a migration again

A run that goes through and leaves nothing to report has brought the build file to its new
text. A second real run on what it left finds the same plan (`plan_of_plan`): the probes for
regular files answer as before, the build file holds the new text, and a text that is already
migrated is its own rewrite (`BuildText.rewrite_of_migrated`). So the second run writes the
build text back as it is, and modernizes the main source once more (`rerun_eq`).

Modernizing is a fixed point only for a source with at least as many lines as the header
keeps (`MainSource.modernize_modernize`): the new source starts with the kept lines, and a
second pass keeps those again. A shorter source has the new entry point appended on every
run (`rerun_modernizes_short_source`).

* `BuildText.leftovers_eq_nil_iff`: nothing is left to report exactly when no coordinate and,
  for an application, no legacy reference is left;
* `run_real_library`, `run_real_app`, `run_ok`: a real run that goes through, step by step;
* `rerun_eq`: the second run reports the same and modernizes the main source again;
* `rerun_unchanged`: after a clean run over a long enough main source, a second run changes
  nothing.
-/

namespace BuildMigration

open Sandbox

namespace BuildText

open Text

/-- A rewritten text leaves nothing to report exactly when it holds no coordinate and, for an
    application, no legacy reference. -/
theorem leftovers_eq_nil_iff {t : List Char} {lib : Bool} :
    leftovers t lib = [] ↔
      coordinate.find? t = none ∧ (lib = false → legacyReference.find? t = none) := by
  simp only [leftovers, List.append_eq_nil_iff, ← Pattern.count_eq_zero_iff]
  by_cases hk : coordinate.count t = 0 <;> by_cases hm : legacyReference.count t = 0 <;>
    cases lib <;> simp [hk, hm]

/-- A build text that is already migrated is its own rewrite: its first banner names the
    version, it holds no Scala 2 library coordinate and, for an application, no `.App`. -/
theorem rewrite_of_migrated {t v : List Char} (hv : Version.isWellFormed v = true) {lib : Bool}
    (hb : ∀ f, banner.find? t = some f → f.matched = bannerTemplate v)
    (hc : coordinate.find? t = none) (he : lib = false → entry.find? t = none) :
    rewrite t v lib = .ok t := by
  have hbanner : banner.replaceFirst (fun _ => bannerTemplate v) t = t := by
    cases hf : banner.find? t with
    | none => exact banner.replaceFirst_of_find?_none _ hf
    | some f =>
      rw [banner.replaceFirst_of_find? hf, ← hb f hf]
      exact banner.find?_text hf
  rw [rewrite_of_isWellFormed hv, hbanner, coordinate.replaceFirst_of_find?_none _ hc]
  cases lib
  · exact congrArg Except.ok (renameEntryPoint_of_find?_none (he rfl))
  · rfl

end BuildText

namespace Migration

/-- A plan found again in another tree: where the probes for regular files answer as before,
    and the build file holds the new build text, which is its own rewrite and names the same
    package. -/
theorem plan_of_plan {t t' : FileTree} {req : Request} {p : Plan} (hp : plan t req = .ok p)
    (hfile : t'.isFile = t.isFile) (hf : t'.fetch p.buildFile.path = .ok (String.ofList p.newText))
    (hpkg : p.buildFile.isLibrary = false → BuildText.packagePath p.newText = .ok p.package)
    (hrw : BuildText.rewrite p.newText p.version.toList p.buildFile.isLibrary = .ok p.newText) :
    plan t' req = .ok p := by
  obtain ⟨hv, hh, hl, -, -, -, hlib, -⟩ := plan_eq_ok hp
  obtain ⟨version, ⟨path, lib⟩, package, newText⟩ := p
  have hh' : ¬ req.headerLines < 0 := by omega
  simp only at hf hpkg hrw hv hl hlib
  simp only [plan, hv, hh', hfile, hl, hf, Except.mapError, ok_bind, if_false,
    String.toList_ofList]
  cases lib
  · simp only [Bool.false_eq_true, if_false, hpkg rfl, hrw, ok_bind]
    rfl
  · simp only [if_true, pure_eq_ok, hrw, ok_bind, hlib rfl]

/-- A clean plan stands again in a tree whose probes for regular files answer as before and
    whose build file holds the new build text, once that text is seen to be migrated: its
    first banner names the version and, for an application, it names the entry point in its
    new form and the same package. -/
theorem plan_of_migrated {t t' : FileTree} {req : Request} {p : Plan} (hp : plan t req = .ok p)
    (hclean : p.warnings = []) (hfile : t'.isFile = t.isFile)
    (hf : t'.fetch p.buildFile.path = .ok (String.ofList p.newText))
    (hban : ∀ f, BuildText.banner.find? p.newText = some f →
      f.matched = BuildText.bannerTemplate p.version.toList)
    (hent : p.buildFile.isLibrary = false →
      BuildText.entry.find? p.newText = none ∧ BuildText.packagePath p.newText = .ok p.package) :
    plan t' req = .ok p := by
  obtain ⟨hv, -⟩ := plan_eq_ok hp
  have hwf : Version.isWellFormed p.version.toList = true := by
    rw [(Version.validate_eq_ok_iff.1 hv).2]
    exact (Version.validate_eq_ok_iff.1 hv).1
  -- nothing left to report: in particular no coordinate is left
  have hcoord := (BuildText.leftovers_eq_nil_iff.1 (List.map_eq_nil_iff.1 hclean)).1
  exact plan_of_plan hp hfile hf (fun h => (hent h).2)
    (BuildText.rewrite_of_migrated hwf hban hcoord fun h => (hent h).1)

variable {s : Sandbox} {req : Request} {p : Plan}

open FileTree

/-- A real run for a library, once its build file is known to be a file of the tree. -/
theorem run_real_library (hreal : req.dryRun = false) (hp : plan s.tree req = .ok p)
    (hlib : p.buildFile.isLibrary = true) {bps : List String}
    (hbn : s.tree.Names p.buildFile.path bps) :
    (((run req).run : SandboxM _).run s).1 = .ok (p.report none) ∧
      (((run req).run : SandboxM _).run s).2.tree =
        s.tree.put bps (String.ofList p.newText).toUTF8 := by
  rw [run_eq, hp]
  dsimp only
  rw [carry_real p req hreal, write_of_names hbn]
  simp [hlib]

/-- A real run for an application, once its build file and, after the build file is written,
    its main source are known to be files of the tree. -/
theorem run_real_app (hreal : req.dryRun = false) (hp : plan s.tree req = .ok p)
    (hlib : p.buildFile.isLibrary = false) {bps mps : List String}
    (hbn : s.tree.Names p.buildFile.path bps)
    (hmn : (s.tree.put bps (String.ofList p.newText).toUTF8).Names p.mainPath mps) {src : String}
    (hf : (s.tree.put bps (String.ofList p.newText).toUTF8).fetch p.mainPath = .ok src) :
    (((run req).run : SandboxM _).run s).1 = .ok (p.report (some p.mainPath)) ∧
      (((run req).run : SandboxM _).run s).2.tree =
        (s.tree.put bps (String.ofList p.newText).toUTF8).put mps
          (String.ofList (MainSource.modernize src.toList req.headerLines)).toUTF8 := by
  rw [run_eq, hp]
  dsimp only
  rw [carry_real p req hreal, write_of_names hbn]
  simp only [hlib, Bool.false_eq_true, if_false, tree_print, hf]
  rw [Sandbox.write_of_names (by simpa using hmn)]
  simp

/-- What the rest of a run reports when it goes through: its plan's report. -/
theorem carry_ok {r : Report} (h : (((p.carry req).run : SandboxM _).run s).1 = .ok r) :
    ∃ mf, r = p.report mf := by
  rcases carry_cases p req s with ⟨mf, hmf⟩ | ⟨f, hf, -⟩
  · rw [hmf, Except.ok.injEq] at h
    exact ⟨mf, h.symm⟩
  · rw [hf] at h
    cases h

/-- A run that goes through went through its plan and reports it. -/
theorem run_ok {r : Report} (hok : (((run req).run : SandboxM _).run s).1 = .ok r) :
    ∃ p, plan s.tree req = .ok p ∧ ∃ mf, r = p.report mf := by
  rw [run_eq] at hok
  cases hp : plan s.tree req with
  | error f =>
    rw [hp] at hok
    cases hok
  | ok p =>
    rw [hp] at hok
    exact ⟨p, rfl, carry_ok hok⟩

/-- A second real run after a clean one whose build text is already migrated: it reports the
    same, and changes at most the main source, which it modernizes once more. -/
theorem rerun_eq (s : Sandbox) (req : Request) (hreal : req.dryRun = false)
    (hin : req.project.Inside) (r : Report)
    (hok : (((run req).run : SandboxM _).run s).1 = .ok r) (hclean : r.warnings = [])
    (hrel : ∀ seg ∈ r.packagePath, seg.toList.head? ≠ some '/')
    (hmigrated : ∀ text,
      (((run req).run : SandboxM _).run s).2.tree.fetch r.buildFile.path = .ok text →
      (∀ f, BuildText.banner.find? text.toList = some f →
        f.matched = BuildText.bannerTemplate r.version.toList) ∧
      (r.buildFile.isLibrary = false →
        BuildText.entry.find? text.toList = none ∧
          BuildText.packagePath text.toList = .ok r.packagePath)) :
    let s1 := (((run req).run : SandboxM _).run s).2
    let s2 := (((run req).run : SandboxM _).run s1).2
    (((run req).run : SandboxM _).run s1).1 = .ok r ∧
      (r.mainFile = none → s2.tree = s1.tree) ∧
      ∀ mp, r.mainFile = some mp → ∃ mps old, s.tree.fetch mp = .ok old ∧ s1.tree.Names mp mps ∧
        s1.tree.read mp =
          .ok (String.ofList (MainSource.modernize old.toList req.headerLines)).toUTF8 ∧
        s2.tree = s1.tree.put mps (String.ofList (MainSource.modernize
          (MainSource.modernize old.toList req.headerLines) req.headerLines)).toUTF8 := by
  intro s1 s2
  obtain ⟨p, hp, mf, rfl⟩ := run_ok hok
  obtain ⟨-, hbn⟩ := plan_buildFile hin hp
  -- after the first run the build file holds the new build text
  have hbn1 := hbn.read_put (String.ofList p.newText).toUTF8
  cases hlib : p.buildFile.isLibrary
  · -- an application: the first run also wrote its main source, a file apart from the build file
    have hap := plan_mainPath_apart hin hp hlib hrel
    have hok' : (((p.carry req).run : SandboxM _).run s).1 = .ok (p.report mf) := by
      rw [run_eq, hp] at hok
      exact hok
    obtain ⟨mps, src, hmn, hf1, hold, -⟩ :=
      (carry_real_tree p hreal s hbn fun _ pl e hr => (hap pl e hr).imp fun _ h => h.1).2.2 _ hok' hlib
    have hne : mps ≠ p.buildFile.path.parts := by
      obtain ⟨qs, hq, hne⟩ := hap _ _ hmn.2.choose_spec
      cases Place.tree.inj hq
      exact hne
    have hmn1 := hmn.put_of_ne hbn.mem_paths hne (String.ofList p.newText).toUTF8
    obtain ⟨hr1, hs1⟩ := run_real_app hreal hp hlib hbn hmn1 hf1
    have hmf : mf = some p.mainPath := by
      rw [hok, Except.ok.injEq] at hr1
      exact congrArg Report.mainFile hr1
    subst hmf
    generalize hnm : String.ofList (MainSource.modernize src.toList req.headerLines) = nm at hs1
    have hmn2 := hmn1.read_put nm.toUTF8
    have hbn2 := hbn1.1.put_of_ne hmn1.mem_paths (Ne.symm hne) nm.toUTF8
    have hbr2 : ((s.tree.put p.buildFile.path.parts (String.ofList p.newText).toUTF8).put mps
        nm.toUTF8).read p.buildFile.path = .ok (String.ofList p.newText).toUTF8 := by
      rw [hbn1.1.read_put_of_ne hmn1.mem_paths (Ne.symm hne)]
      exact hbn1.2
    have ht1 : s1.tree = (s.tree.put p.buildFile.path.parts (String.ofList p.newText).toUTF8).put mps
        nm.toUTF8 := hs1
    have hbuild : s1.tree.fetch p.buildFile.path = .ok (String.ofList p.newText) := by
      rw [ht1]
      exact fetch_of_read hbr2
    -- the new build text is already migrated, so the plan stands again in the new tree
    obtain ⟨hban, hent⟩ := hmigrated _ hbuild
    rw [String.toList_ofList] at hban hent
    have hp1 : plan s1.tree req = .ok p := plan_of_migrated hp hclean
      (by rw [ht1, isFile_put hmn1.mem_paths, isFile_put hbn.mem_paths]) hbuild hban hent
    -- the second run writes the build text back, and the main source modernized once more
    have hput : s1.tree.put p.buildFile.path.parts (String.ofList p.newText).toUTF8 = s1.tree := by
      rw [ht1]
      exact hbn2.put_read hbr2
    obtain ⟨hr2, hs2⟩ := run_real_app hreal hp1 hlib (ht1 ▸ hbn2) (by rw [hput, ht1]; exact hmn2.1)
      (by rw [hput, ht1]; exact fetch_of_read hmn2.2)
    refine ⟨hr2, (fun h => by cases h), fun mp hmp => ?_⟩
    cases hmp
    subst hnm
    refine ⟨mps, src, hold hne, ht1 ▸ hmn2.1, ht1 ▸ hmn2.2, ?_⟩
    have hs2' : s2.tree = _ := hs2
    rw [hs2', hput, String.toList_ofList]
  · -- a library: the first run wrote the build file only, and so does the second
    obtain ⟨hr1, hs1⟩ := run_real_library hreal hp hlib hbn
    have hmf : mf = none := by
      rw [hok, Except.ok.injEq] at hr1
      exact congrArg Report.mainFile hr1
    subst hmf
    have ht1 : s1.tree = s.tree.put p.buildFile.path.parts (String.ofList p.newText).toUTF8 := hs1
    have hbuild : s1.tree.fetch p.buildFile.path = .ok (String.ofList p.newText) := by
      rw [ht1]
      exact fetch_of_read hbn1.2
    obtain ⟨hban, hent⟩ := hmigrated _ hbuild
    rw [String.toList_ofList] at hban hent
    have hp1 : plan s1.tree req = .ok p := plan_of_migrated hp hclean
      (by rw [ht1]; exact isFile_put hbn.mem_paths _) hbuild hban hent
    obtain ⟨hr2, hs2⟩ := run_real_library hreal hp1 hlib (ht1 ▸ hbn1.1)
    refine ⟨hr2, fun _ => ?_, fun mp hmp => by cases hmp⟩
    have hs2' : s2.tree = _ := hs2
    rw [hs2', ht1]
    exact hbn1.1.put_read hbn1.2

theorem rerun_unchanged (s : Sandbox) (req : Request) (hreal : req.dryRun = false)
    (hin : req.project.Inside) (r : Report)
    (hok : (((run req).run : SandboxM _).run s).1 = .ok r) (hclean : r.warnings = [])
    (hrel : ∀ seg ∈ r.packagePath, seg.toList.head? ≠ some '/')
    (hlines : ∀ mp src, r.mainFile = some mp → s.tree.fetch mp = .ok src →
      req.headerLines ≤ (MainSource.lines src.toList).length)
    (hmigrated : ∀ text,
      (((run req).run : SandboxM _).run s).2.tree.fetch r.buildFile.path = .ok text →
      (∀ f, BuildText.banner.find? text.toList = some f →
        f.matched = BuildText.bannerTemplate r.version.toList) ∧
      (r.buildFile.isLibrary = false →
        BuildText.entry.find? text.toList = none ∧
          BuildText.packagePath text.toList = .ok r.packagePath)) :
    let s1 := (((run req).run : SandboxM _).run s).2
    (((run req).run : SandboxM _).run s1).1 = .ok r ∧
      (((run req).run : SandboxM _).run s1).2.tree = s1.tree := by
  intro s1
  obtain ⟨hr2, hlib, happ⟩ := rerun_eq s req hreal hin r hok hclean hrel hmigrated
  refine ⟨hr2, ?_⟩
  cases hmf : r.mainFile with
  | none => exact hlib hmf
  | some mp =>
    -- the main source kept its header lines, so modernizing it again changes nothing
    obtain ⟨mps, old, hold, hmn, hrd, htree⟩ := happ mp hmf
    obtain ⟨p, hp, -, -⟩ := run_ok hok
    rw [htree, MainSource.modernize_modernize (plan_eq_ok hp).2.1 (hlines mp old hmf hold)]
    exact hmn.put_read hrd

/-- The first run on an application with a one-line main source, for any header count: it is
    clean, and the build text it leaves is already migrated. -/
theorem run_oneLine_app {h : Int} (h0 : 0 ≤ h) :
    let s : Sandbox := { tree := ⟨[(["app", "build.gradle"], "mainClass = \"a.App\"".toUTF8),
      (["app", "src", "main", "scala", "a", "App.scala"], "x".toUTF8)], [], .bare⟩ }
    let req : Request := { project := PathName.ofString ".", version := "3.3.1", headerLines := h }
    let r : Report := ⟨⟨PathName.ofString "app/build.gradle", false⟩, "3.3.1", ["a"],
      some (MainSource.path (PathName.ofString "app/build.gradle") ["a"]), []⟩
    let first := ((run req).run : SandboxM _).run s
    first.1 = .ok r ∧
      ∀ text, first.2.tree.fetch r.buildFile.path = .ok text →
        (∀ f, BuildText.banner.find? text.toList = some f →
          f.matched = BuildText.bannerTemplate r.version.toList) ∧
        (r.buildFile.isLibrary = false →
          BuildText.entry.find? text.toList = none ∧
            BuildText.packagePath text.toList = .ok r.packagePath) := by
  intro s req r first
  have hplan : plan s.tree req = .ok ⟨"3.3.1", ⟨PathName.ofString "app/build.gradle", false⟩,
      ["a"], "mainClass = \"a.main\"".toList⟩ :=
    (plan_headerLines s.tree { project := PathName.ofString ".", version := "3.3.1" } h0
      (by decide)).trans (by cbv)
  have hbn : s.tree.Names (PathName.ofString "app/build.gradle") ["app", "build.gradle"] :=
    names_of_isFile (by cbv) (by decide)
  have hbn1 := hbn.read_put (String.ofList "mainClass = \"a.main\"".toList).toUTF8
  have hmn : (s.tree.put ["app", "build.gradle"]
      (String.ofList "mainClass = \"a.main\"".toList).toUTF8).Names
      (MainSource.path (PathName.ofString "app/build.gradle") ["a"])
      ["app", "src", "main", "scala", "a", "App.scala"] := ⟨by cbv, _, by cbv⟩
  have hf : (s.tree.put ["app", "build.gradle"]
      (String.ofList "mainClass = \"a.main\"".toList).toUTF8).fetch
      (MainSource.path (PathName.ofString "app/build.gradle") ["a"]) = .ok "x" := by cbv
  obtain ⟨hr, ht⟩ := run_real_app rfl hplan rfl hbn hmn hf
  -- the new build text names the entry point in its new form, and nothing is left to report
  have hw : BuildText.leftovers "mainClass = \"a.main\"".toList false = [] :=
    BuildText.leftovers_eq_nil_iff.2 ⟨by decide, fun _ => by decide⟩
  refine ⟨?_, fun text htext => ?_⟩
  · have hr' : first.1 = _ := hr
    rw [hr']
    simp only [Plan.report, Plan.warnings, Plan.mainPath, hw, List.map_nil]
    rfl
  · have ht' : first.2.tree = _ := ht
    rw [ht', fetch_of_read ((hbn1.1.read_put_of_ne hmn.mem_paths (by decide) _).trans hbn1.2),
      Except.ok.injEq] at htext
    subst htext
    exact ⟨by decide, fun _ => ⟨by decide, by cbv⟩⟩

/-- With one header line kept, a second run over a one-line main source changes nothing. -/
theorem rerun_unchanged_oneLine :
    let s : Sandbox := { tree := ⟨[(["app", "build.gradle"], "mainClass = \"a.App\"".toUTF8),
      (["app", "src", "main", "scala", "a", "App.scala"], "x".toUTF8)], [], .bare⟩ }
    let req : Request := { project := PathName.ofString ".", version := "3.3.1", headerLines := 1 }
    let r : Report := ⟨⟨PathName.ofString "app/build.gradle", false⟩, "3.3.1", ["a"],
      some (MainSource.path (PathName.ofString "app/build.gradle") ["a"]), []⟩
    req.dryRun = false ∧ req.project.Inside ∧
      (((run req).run : SandboxM _).run s).1 = .ok r ∧ r.warnings = [] ∧
      (∀ seg ∈ r.packagePath, seg.toList.head? ≠ some '/') ∧
      (∀ mp src, r.mainFile = some mp → s.tree.fetch mp = .ok src →
        req.headerLines ≤ (MainSource.lines src.toList).length) ∧
      (∀ text, (((run req).run : SandboxM _).run s).2.tree.fetch r.buildFile.path = .ok text →
        (∀ f, BuildText.banner.find? text.toList = some f →
          f.matched = BuildText.bannerTemplate r.version.toList) ∧
        (r.buildFile.isLibrary = false →
          BuildText.entry.find? text.toList = none ∧
            BuildText.packagePath text.toList = .ok r.packagePath)) ∧
      (let s1 := (((run req).run : SandboxM _).run s).2
      (((run req).run : SandboxM _).run s1).1 = .ok r ∧
        (((run req).run : SandboxM _).run s1).2.tree = s1.tree) := by
  intro s req r
  obtain ⟨hok, hmigrated⟩ := run_oneLine_app (h := 1) (by decide)
  -- the main source is one line, as many as the header keeps
  have hlines : ∀ mp src, r.mainFile = some mp → s.tree.fetch mp = .ok src →
      req.headerLines ≤ (MainSource.lines src.toList).length := by
    intro mp src hmp hf
    cases hmp
    have hx : s.tree.fetch (MainSource.path (PathName.ofString "app/build.gradle") ["a"]) =
        .ok "x" := by cbv
    rw [hx, Except.ok.injEq] at hf
    subst hf
    decide
  exact ⟨rfl, by decide, hok, rfl, by decide, hlines, hmigrated,
    rerun_unchanged s req rfl (by decide) r hok rfl (by decide) hlines hmigrated⟩

/-- A main source shorter than the header count: the first run is clean, yet the second
    modernizes the main source once more and so changes the tree. -/
theorem rerun_modernizes_short_source :
    let s : Sandbox := { tree := ⟨[(["app", "build.gradle"], "mainClass = \"a.App\"".toUTF8),
      (["app", "src", "main", "scala", "a", "App.scala"], "x".toUTF8)], [], .bare⟩ }
    let req : Request := { project := PathName.ofString ".", version := "3.3.1" }
    let first := ((run req).run : SandboxM _).run s
    let second := ((run req).run : SandboxM _).run first.2
    (∃ r, first.1 = .ok r ∧ r.warnings = []) ∧ second.2.tree ≠ first.2.tree := by
  intro s req first second
  obtain ⟨hok, hmigrated⟩ := run_oneLine_app (h := 5) (by decide)
  refine ⟨⟨_, hok, rfl⟩, fun heq => ?_⟩
  obtain ⟨-, -, happ⟩ := rerun_eq s req rfl (by decide) _ hok rfl (by decide) hmigrated
  obtain ⟨mps, old, hold, hmn, hrd, htree⟩ := happ _ rfl
  have hx : s.tree.fetch (MainSource.path (PathName.ofString "app/build.gradle") ["a"]) =
      .ok "x" := by cbv
  rw [hx, Except.ok.injEq] at hold
  subst hold
  -- the main source would read back both its first and its second modernization
  have hrd2 := (hmn.read_put (String.ofList (MainSource.modernize
    (MainSource.modernize "x".toList 5) 5)).toUTF8).2
  have htree' : second.2.tree = _ := htree
  rw [← htree', heq, hrd, Except.ok.injEq] at hrd2
  have hdec := congrArg Text.decode hrd2
  rw [Text.decode_toUTF8, Text.decode_toUTF8, Except.ok.injEq] at hdec
  have hne : MainSource.modernize "x".toList 5 ≠
      MainSource.modernize (MainSource.modernize "x".toList 5) 5 := by decide
  exact hne (by simpa using congrArg String.toList hdec)

end Migration

end BuildMigration
