import BuildMigration.Proofs.Plan
/-!
# Dry runs

A dry run shows what a real run would write, and writes nothing. Both runs share their plan
(`Migration.plan_dryRun`); what differs is the rest: the dry run prints each new text under a
frame, where the real run writes it and ticks it off. Two things keep the printed texts true to
the written ones: the main source never leads to the build file, and writing the build file
moves no path, so the main source that the real run reads after that write is the one the dry
run read.

* `dryRun_agrees`: the two runs give the same answer and the same warnings; the dry run keeps
  the tree, and every text it shows is what the real run leaves in that file.
-/

namespace BuildMigration

namespace Migration

open Sandbox FileTree

/-- A dry run agrees with a real run. For a project inside the tree whose package pieces are
    relative, both give the same answer (the same report, or the same failure) and write the same
    warnings; the dry run leaves the tree as it was and prints, besides the library note, the
    framed texts of some files, each of which the real run leaves holding exactly that text. -/
theorem dryRun_agrees (s : Sandbox) (req : Request) (hin : req.project.Inside)
    (hpkg : ∀ p, plan s.tree req = .ok p → ∀ seg ∈ p.package, seg.toList.head? ≠ some '/') :
    let dry := ((run { req with dryRun := true }).run : SandboxM _).run s
    let real := ((run { req with dryRun := false }).run : SandboxM _).run s
    dry.1 = real.1 ∧ dry.2.err = real.2.err ∧ dry.2.tree = s.tree ∧
      ∃ (shown : List (PathName × String)) (note : String),
        dry.2.out = s.out ++ String.join (shown.map fun f => framed f.1 f.2) ++ note ∧
        (note = "" ∨ ∃ path, note = libraryNote path) ∧
        ∀ f ∈ shown, real.2.tree.read f.1 = .ok f.2.toUTF8 := by
  dsimp only
  rw [run_eq, run_eq, plan_dryRun s.tree req true, plan_dryRun s.tree req false]
  cases hp : plan s.tree req with
  | error f => exact ⟨rfl, rfl, rfl, [], "", by simp, .inl rfl, by simp⟩
  | ok p =>
    obtain ⟨-, hbn⟩ := plan_buildFile hin hp
    dsimp only
    rw [carry_dry _ _ rfl, carry_real _ _ rfl, Sandbox.write_of_names hbn]
    -- the real run leaves the new build text in the build file, whatever follows
    have hbuild := (hbn.read_put (String.ofList p.newText).toUTF8).2
    cases hlib : p.buildFile.isLibrary
    · have hap := plan_mainPath_apart hin hp hlib (hpkg p hp)
      simp only [Bool.false_eq_true, if_false, Sandbox.tree_print,
        fetch_put_of_ne hbn.mem_paths _ (not_reached_of_apart hap)]
      cases hf : s.tree.fetch p.mainPath with
      | error f =>
        refine ⟨rfl, by simp, rfl, [(p.buildFile.path, String.ofList p.newText)], "", by simp,
          .inl rfl, ?_⟩
        simpa using hbuild
      | ok src =>
        -- the main source names a file apart from the build file, before and after its write
        obtain ⟨qs, hqs, -, hmn⟩ := names_of_fetch_apart hbn hf hap (String.ofList p.newText).toUTF8
        dsimp only
        rw [Sandbox.write_of_names (by simpa using hmn)]
        refine ⟨rfl, by simp, rfl, [(p.buildFile.path, String.ofList p.newText),
          (p.mainPath, String.ofList (MainSource.modernize src.toList req.headerLines))], "",
          by simp [String.append_assoc], .inl rfl, ?_⟩
        intro f hf
        simp only [List.mem_cons, List.not_mem_nil, or_false] at hf
        rcases hf with rfl | rfl
        · case inl =>
          simp only [Sandbox.tree_print]
          rw [(hbn.read_put _).1.read_put_of_ne hmn.mem_paths (Ne.symm hqs)]
          exact hbuild
        · case inr => simpa using (hmn.read_put _).2
    · refine ⟨by simp, by simp, by simp, [(p.buildFile.path, String.ofList p.newText)],
        libraryNote p.buildFile.path, by simp, .inr ⟨_, rfl⟩, ?_⟩
      simpa using hbuild

/-- An application with one main source: the dry run shows the two new texts that the real
    run writes. -/
theorem dryRun_agrees_app :
    let s : Sandbox := { tree := ⟨[(["app", "build.gradle"], "mainClass = \"a.App\"".toUTF8),
      (["app", "src", "main", "scala", "a", "App.scala"], "x".toUTF8)], [], .bare⟩ }
    let req : Request := { project := PathName.ofString ".", version := "3.3.1" }
    req.project.Inside ∧
      (∀ p, plan s.tree req = .ok p → ∀ seg ∈ p.package, seg.toList.head? ≠ some '/') ∧
      (let dry := ((run { req with dryRun := true }).run : SandboxM _).run s
      let real := ((run { req with dryRun := false }).run : SandboxM _).run s
      dry.1 = real.1 ∧ dry.2.err = real.2.err ∧ dry.2.tree = s.tree ∧
        ∃ (shown : List (PathName × String)) (note : String),
          dry.2.out = s.out ++ String.join (shown.map fun f => framed f.1 f.2) ++ note ∧
          (note = "" ∨ ∃ path, note = libraryNote path) ∧
          ∀ f ∈ shown, real.2.tree.read f.1 = .ok f.2.toUTF8) := by
  intro s req
  have hin : req.project.Inside := by decide
  have hplan : plan s.tree req = .ok ⟨"3.3.1", ⟨PathName.ofString "app/build.gradle", false⟩,
      ["a"], "mainClass = \"a.main\"".toList⟩ := by cbv
  have hpkg : ∀ p, plan s.tree req = .ok p → ∀ seg ∈ p.package, seg.toList.head? ≠ some '/' := by
    intro p hp
    rw [hplan, Except.ok.injEq] at hp
    subst hp
    decide
  exact ⟨hin, hpkg, dryRun_agrees s req hin hpkg⟩

end Migration

end BuildMigration
