import BuildMigration.CommandLine.Run
import BuildMigration.Proofs.Plan
/-!
# What a run leaves behind

A run changes the tree in at most two writes, and both go to files that are there: first the
build file, which the plan found, then the main source of an application, which the run has
just read. Everything that can fail before the first write belongs to the plan, so a run
whose plan fails leaves the sandbox as it was, and an expected failure, the one the command
reports with exit status 1, is always such a failure (`carry_ne_expected`).

* `carry_real_tree`: the tree after the rest of a real run, for each way it ends;
* `CommandLine.runCommand_exit_one`: exit status 1 leaves the files and the output as they were;
* `run_effects`: the state a run leaves, for every way it ends.

When the main source leads back to the build file (through the host's link to the working
directory), the second write replaces the new build text: the main source that the run
modernizes is what it reads after the first write (`run_modernizes_rewritten_build`).
-/

namespace BuildMigration

open Sandbox

namespace Migration

variable {req : Request}

/-- The rest of a run ends in its plan's report, with the main source it saw to, or in a
    failure of the file system or of decoding: never in an expected failure. -/
theorem carry_cases (p : Plan) (req : Request) (s : Sandbox) :
    (∃ mf, (((p.carry req).run : SandboxM _).run s).1 = .ok (p.report mf)) ∨
      ∃ f, (((p.carry req).run : SandboxM _).run s).1 = .error f ∧ ∀ e, f ≠ .expected e := by
  cases hd : req.dryRun
  · rw [carry_real p req hd]
    cases s.write p.buildFile.path (String.ofList p.newText).toUTF8 with
    | error f => exact .inr ⟨_, rfl, fun e => by simp⟩
    | ok s1 =>
      dsimp only
      cases p.buildFile.isLibrary
      · simp only [Bool.false_eq_true, if_false]
        cases hf : (s1.print .out (ticked p.buildFile.path)).print .err
            (warningLines p.buildFile.path p.warnings) |>.tree.fetch p.mainPath with
        | error f => exact .inr ⟨f, rfl, fun e he => FileTree.fetch_ne_expected _ e (he ▸ hf)⟩
        | ok src =>
          dsimp only
          split
          · exact .inr ⟨_, rfl, fun e => by simp⟩
          · exact .inl ⟨_, rfl⟩
      · exact .inl ⟨_, rfl⟩
  · rw [carry_dry p req hd]
    cases p.buildFile.isLibrary
    · simp only [Bool.false_eq_true, if_false]
      cases hf : s.tree.fetch p.mainPath with
      | error f => exact .inr ⟨f, rfl, fun e he => FileTree.fetch_ne_expected _ e (he ▸ hf)⟩
      | ok src => exact .inl ⟨_, rfl⟩
    · exact .inl ⟨_, rfl⟩

/-- An expected failure never comes from the rest of a run. -/
theorem carry_ne_expected (p : Plan) (req : Request) (s : Sandbox) (e : MigrationError) :
    (((p.carry req).run : SandboxM _).run s).1 ≠ .error (.expected e) := by
  rcases carry_cases p req s with ⟨mf, h⟩ | ⟨f, h, hf⟩
  · rw [h]
    simp
  · rw [h, ne_eq, Except.error.injEq]
    exact hf e

/-- A run that ends in an expected failure leaves the sandbox as it was: every expected
    failure comes from the plan, before anything is written or printed. -/
theorem run_expected {s s' : Sandbox} {e : MigrationError}
    (h : ((run req).run : SandboxM _).run s = (.error (.expected e), s')) : s' = s := by
  rw [run_eq] at h
  cases hp : plan s.tree req with
  | error f =>
    rw [hp] at h
    exact (Prod.mk.inj h).2.symm
  | ok p =>
    rw [hp] at h
    exact absurd (congrArg Prod.fst h) (carry_ne_expected p req s e)

/-- The rest of a dry run writes nothing. -/
theorem carry_dry_tree (p : Plan) (hdry : req.dryRun = true) (s : Sandbox) :
    (((p.carry req).run : SandboxM _).run s).2.tree = s.tree := by
  rw [carry_dry p req hdry]
  cases p.buildFile.isLibrary
  · simp only [Bool.false_eq_true, if_false]
    cases s.tree.fetch p.mainPath <;> simp
  · simp

open FileTree in
/-- What the rest of a real run leaves in the tree, once the build file, a file of the tree, is
    written: if it fails, or for a library, the new build text there and nothing else; for an
    application, besides, the new text of its main source, a file of the tree, made from what
    that file held once the build file was written. -/
theorem carry_real_tree (p : Plan) (hreal : req.dryRun = false) (s : Sandbox)
    {bps : List String} (hbn : s.tree.Names p.buildFile.path bps)
    (hmain : p.buildFile.isLibrary = false →
      ∀ pl e, s.tree.resolve p.mainPath = .reached pl e → ∃ qs, pl = .tree qs) :
    ((∃ f, (((p.carry req).run : SandboxM _).run s).1 = .error f) →
        (((p.carry req).run : SandboxM _).run s).2.tree =
          s.tree.put bps (String.ofList p.newText).toUTF8) ∧
      (∀ r, (((p.carry req).run : SandboxM _).run s).1 = .ok r → p.buildFile.isLibrary = true →
        (((p.carry req).run : SandboxM _).run s).2.tree =
          s.tree.put bps (String.ofList p.newText).toUTF8) ∧
      (∀ r, (((p.carry req).run : SandboxM _).run s).1 = .ok r → p.buildFile.isLibrary = false →
        ∃ mps src, s.tree.Names p.mainPath mps ∧
          (s.tree.put bps (String.ofList p.newText).toUTF8).fetch p.mainPath = .ok src ∧
          (mps ≠ bps → s.tree.fetch p.mainPath = .ok src) ∧
          (((p.carry req).run : SandboxM _).run s).2.tree =
            (s.tree.put bps (String.ofList p.newText).toUTF8).put mps
              (String.ofList (MainSource.modernize src.toList req.headerLines)).toUTF8) := by
  rw [carry_real p req hreal, write_of_names hbn]
  dsimp only
  cases hlib : p.buildFile.isLibrary
  · simp only [Bool.false_eq_true, if_false, tree_print]
    cases hf : (s.tree.put bps (String.ofList p.newText).toUTF8).fetch p.mainPath with
    | error f => exact ⟨fun _ => by simp, fun _ h => by simp at h, fun _ h => by simp at h⟩
    | ok src =>
      -- the main source was read, so it names a file of the tree, which the write keeps
      obtain ⟨b, hrd, -⟩ := fetch_eq_ok hf
      obtain ⟨mps, hmn1, -⟩ := names_of_read hrd fun pl e hr => by
        obtain ⟨e', hr'⟩ := reached_of_put hbn.mem_paths _ hr
        exact hmain hlib pl e' hr'
      have hmn := hmn1.of_put hbn.mem_paths
      generalize hs2 : (({ s with tree := s.tree.put bps (String.ofList p.newText).toUTF8 } : Sandbox).print
        .out (ticked p.buildFile.path)).print .err (warningLines p.buildFile.path p.warnings) = s2
      have hs2t : s2.tree = s.tree.put bps (String.ofList p.newText).toUTF8 := by
        rw [← hs2, tree_print, tree_print]
      dsimp only
      rw [Sandbox.write_of_names (hs2t ▸ hmn1)]
      refine ⟨fun ⟨f, h⟩ => by simp at h, fun _ _ h => by simp at h,
        fun _ _ _ => ⟨mps, src, hmn, rfl, fun hne => ?_, by simp [hs2t]⟩⟩
      rw [← hf, fetch_put_of_ne hbn.mem_paths]
      intro e hr
      obtain ⟨hpl, -⟩ := Resolution.reached.inj (hmn.2.choose_spec.symm.trans hr)
      exact hne (Place.tree.inj hpl)
  · exact ⟨fun ⟨f, h⟩ => by simp at h, fun _ _ _ => by simp, fun _ _ h => by simp at h⟩

end Migration

namespace CommandLine

open Migration

/-- The command exits with status 1 only after an expected failure, which leaves every file
    and directory as it was and prints nothing but its one error line. -/
theorem runCommand_exit_one (argv : List String) (s : Sandbox)
    (h : ((runCommand argv : SandboxM _).run s).1 = .ok 1) :
    ((runCommand argv : SandboxM _).run s).2.tree = s.tree ∧
      ((runCommand argv : SandboxM _).run s).2.out = s.out := by
  unfold runCommand at h ⊢
  cases hp : parse argv with
  | error halt =>
    simp only [hp] at h
    cases halt <;> simp [Workspace.emit] at h
  | ok opts =>
    obtain ⟨project, version, dryRun, headerLines⟩ := opts
    simp only [hp] at h ⊢
    cases version with
    | none => simp at h
    | some v =>
      cases headerLines with
      | count n =>
        simp only [runState_bind] at h ⊢
        generalize hx : ((Migration.run ⟨project, v, dryRun, n⟩).run : SandboxM _).run s = x at h ⊢
        obtain ⟨r, s1⟩ := x
        cases r with
        | ok a => simp at h
        | error f =>
          cases f with
          | expected e =>
            -- the one exit with status 1: the run failed in its plan and left the sandbox
            obtain rfl := Migration.run_expected hx
            simp [reportExpected, Workspace.emit]
          | _ => simp at h
      | none =>
        simp only at h ⊢
        cases hv : Version.validate v with
        | error e => simp [reportExpected, Workspace.emit]
        | ok _ => simp [hv] at h

end CommandLine

namespace Migration

open FileTree

/-- The state a run leaves. For a project inside the tree, whose main source, wherever it
    leads, leads into the tree:
    * a run whose plan fails, dry or not, changes nothing and prints nothing;
    * otherwise the build file is a file of the tree, and the new build text is the rewrite of
      its text. A real run that fails after that leaves the new build text there and changes
      nothing else; so does a real run for a library. A real run for an application that goes
      through also writes, into its main source, a file of the tree, the modernized text that
      the main source held once the build file was written: its old text, unless it is the
      build file itself;
    * a dry run changes no file;
    * the command exits with status 1 only with every file as it was and nothing printed on
      the output. -/
theorem run_effects (s : Sandbox) (req : Request) (hin : req.project.Inside)
    (hmain : ∀ p, plan s.tree req = .ok p → p.buildFile.isLibrary = false →
      ∀ pl e, s.tree.resolve p.mainPath = .reached pl e → ∃ qs, pl = .tree qs) :
    let real := ((run { req with dryRun := false }).run : SandboxM _).run s
    (∀ d f, plan s.tree req = .error f →
      ((run { req with dryRun := d }).run : SandboxM _).run s = (.error f, s)) ∧
    (∀ p, plan s.tree req = .ok p →
      s.tree.Names p.buildFile.path p.buildFile.path.parts ∧
      (∃ text, s.tree.fetch p.buildFile.path = .ok text ∧
        BuildText.rewrite text.toList p.version.toList p.buildFile.isLibrary = .ok p.newText) ∧
      ((∃ f, real.1 = .error f) →
        real.2.tree = s.tree.put p.buildFile.path.parts (String.ofList p.newText).toUTF8) ∧
      (∀ r, real.1 = .ok r → p.buildFile.isLibrary = true →
        real.2.tree = s.tree.put p.buildFile.path.parts (String.ofList p.newText).toUTF8) ∧
      (∀ r, real.1 = .ok r → p.buildFile.isLibrary = false →
        ∃ mps src, s.tree.Names p.mainPath mps ∧
          (s.tree.put p.buildFile.path.parts (String.ofList p.newText).toUTF8).fetch p.mainPath =
            .ok src ∧
          (mps ≠ p.buildFile.path.parts → s.tree.fetch p.mainPath = .ok src) ∧
          real.2.tree = (s.tree.put p.buildFile.path.parts (String.ofList p.newText).toUTF8).put mps
            (String.ofList (MainSource.modernize src.toList req.headerLines)).toUTF8)) ∧
    (((run { req with dryRun := true }).run : SandboxM _).run s).2.tree = s.tree ∧
    ∀ argv, ((CommandLine.runCommand argv : SandboxM _).run s).1 = .ok 1 →
      ((CommandLine.runCommand argv : SandboxM _).run s).2.tree = s.tree ∧
      ((CommandLine.runCommand argv : SandboxM _).run s).2.out = s.out := by
  intro real
  refine ⟨?failed, ?planned, ?dry, fun argv h => CommandLine.runCommand_exit_one argv s h⟩
  case failed =>
    intro d f hf
    rw [run_eq, plan_dryRun s.tree req d, hf]
  case planned =>
    intro p hp
    obtain ⟨-, hbn⟩ := plan_buildFile hin hp
    obtain ⟨-, -, -, text, hft, -, -, hrw⟩ := plan_eq_ok hp
    have hreal : real = (((p.carry { req with dryRun := false }).run : SandboxM _).run s) := by
      simp only [real, run_eq, plan_dryRun s.tree req false, hp]
    rw [hreal]
    exact ⟨hbn, ⟨text, hft, hrw⟩, carry_real_tree p rfl s hbn (hmain p hp)⟩
  case dry =>
    rw [run_eq, plan_dryRun s.tree req true]
    cases plan s.tree req with
    | error f => rfl
    | ok p => exact carry_dry_tree p rfl s

/-- An application with one main source, inside the tree. -/
theorem run_effects_app :
    let s : Sandbox := { tree := ⟨[(["app", "build.gradle"], "mainClass = \"a.App\"".toUTF8),
      (["app", "src", "main", "scala", "a", "App.scala"], "x".toUTF8)], [], .bare⟩ }
    let req : Request := { project := PathName.ofString ".", version := "3.3.1" }
    req.project.Inside ∧
    (∀ p, plan s.tree req = .ok p → p.buildFile.isLibrary = false →
      ∀ pl e, s.tree.resolve p.mainPath = .reached pl e → ∃ qs, pl = .tree qs) ∧
    (let real := ((run { req with dryRun := false }).run : SandboxM _).run s
     (∀ d f, plan s.tree req = .error f →
       ((run { req with dryRun := d }).run : SandboxM _).run s = (.error f, s)) ∧
     (∀ p, plan s.tree req = .ok p →
       s.tree.Names p.buildFile.path p.buildFile.path.parts ∧
       (∃ text, s.tree.fetch p.buildFile.path = .ok text ∧
         BuildText.rewrite text.toList p.version.toList p.buildFile.isLibrary = .ok p.newText) ∧
       ((∃ f, real.1 = .error f) →
         real.2.tree = s.tree.put p.buildFile.path.parts (String.ofList p.newText).toUTF8) ∧
       (∀ r, real.1 = .ok r → p.buildFile.isLibrary = true →
         real.2.tree = s.tree.put p.buildFile.path.parts (String.ofList p.newText).toUTF8) ∧
       (∀ r, real.1 = .ok r → p.buildFile.isLibrary = false →
         ∃ mps src, s.tree.Names p.mainPath mps ∧
           (s.tree.put p.buildFile.path.parts (String.ofList p.newText).toUTF8).fetch p.mainPath =
             .ok src ∧
           (mps ≠ p.buildFile.path.parts → s.tree.fetch p.mainPath = .ok src) ∧
           real.2.tree = (s.tree.put p.buildFile.path.parts (String.ofList p.newText).toUTF8).put mps
             (String.ofList (MainSource.modernize src.toList req.headerLines)).toUTF8)) ∧
     (((run { req with dryRun := true }).run : SandboxM _).run s).2.tree = s.tree ∧
     ∀ argv, ((CommandLine.runCommand argv : SandboxM _).run s).1 = .ok 1 →
       ((CommandLine.runCommand argv : SandboxM _).run s).2.tree = s.tree ∧
       ((CommandLine.runCommand argv : SandboxM _).run s).2.out = s.out) := by
  intro s req
  have hin : req.project.Inside := by decide
  have hplan : plan s.tree req = .ok ⟨"3.3.1", ⟨PathName.ofString "app/build.gradle", false⟩,
      ["a"], "mainClass = \"a.main\"".toList⟩ := by cbv
  have hmain : ∀ p, plan s.tree req = .ok p → p.buildFile.isLibrary = false →
      ∀ pl e, s.tree.resolve p.mainPath = .reached pl e → ∃ qs, pl = .tree qs := by
    intro p hp hlib pl e hr
    have hrel : ∀ seg ∈ p.package, seg.toList.head? ≠ some '/' := by
      rw [hplan, Except.ok.injEq] at hp
      subst hp
      decide
    exact ⟨_, (resolve_of_inside (plan_mainPath hin hp hlib hrel).1 hr).1⟩
  exact ⟨hin, hmain, run_effects s req hin hmain⟩

/-- A main source that is the build file: its package leads, through the host's link, back to
    the working directory. The run then modernizes the new build text, not the old one. -/
theorem run_modernizes_rewritten_build :
    let s : Sandbox :=
      { tree := ⟨[(["App.scala"], "Use Scala 2 \"/proc/self/cwd/.main\"".toUTF8)], [], .bare⟩ }
    let req : Request := { project := PathName.ofString "App.scala", version := "3.3.1" }
    let real := ((run req).run : SandboxM _).run s
    (∃ r, real.1 = .ok r) ∧
      real.2.tree = ⟨[(["App.scala"], (String.ofList (MainSource.modernize
        "Use Scala 3.3.1 \"/proc/self/cwd/.main\"".toList 5)).toUTF8)], [], .bare⟩ ∧
      MainSource.modernize "Use Scala 3.3.1 \"/proc/self/cwd/.main\"".toList 5 ≠
        MainSource.modernize "Use Scala 2 \"/proc/self/cwd/.main\"".toList 5 := by
  intro s req real
  have hplan : plan s.tree req = .ok ⟨"3.3.1", ⟨PathName.ofString "App.scala", false⟩,
      ["/proc/self/cwd/"], "Use Scala 3.3.1 \"/proc/self/cwd/.main\"".toList⟩ := by cbv
  have hbn : s.tree.Names (PathName.ofString "App.scala") ["App.scala"] :=
    names_of_isFile (by cbv) (by decide)
  -- the main source lies under the host's link back to the tree: it is the build file
  have hmn : s.tree.Names (MainSource.path (PathName.ofString "App.scala") ["/proc/self/cwd/"])
      ["App.scala"] := ⟨by cbv, _, by cbv⟩
  have hmn1 := hmn.read_put (String.ofList "Use Scala 3.3.1 \"/proc/self/cwd/.main\"".toList).toUTF8
  have hfetch : (s.tree.put ["App.scala"]
      (String.ofList "Use Scala 3.3.1 \"/proc/self/cwd/.main\"".toList).toUTF8).fetch
      (MainSource.path (PathName.ofString "App.scala") ["/proc/self/cwd/"]) =
      .ok (String.ofList "Use Scala 3.3.1 \"/proc/self/cwd/.main\"".toList) :=
    FileTree.fetch_of_read hmn1.2
  refine ⟨?_, ?_, by decide⟩
  all_goals
    simp only [real, run_eq, hplan]
    rw [carry_real _ _ rfl]
    dsimp only
    rw [write_of_names hbn]
    simp only [Bool.false_eq_true, if_false, tree_print, Plan.mainPath, hfetch]
    rw [Sandbox.write_of_names (by simpa using hmn1.1)]
    dsimp only
  · exact ⟨_, rfl⟩
  · simp only [tree_print, FileTree.put, s, FileTree.putFile, if_pos, req, String.toList_ofList]

end Migration

end BuildMigration
