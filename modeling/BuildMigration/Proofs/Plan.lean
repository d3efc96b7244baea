import BuildMigration.Proofs.SandboxRun
/-!
# The plan of a run

A run reads before it writes. Everything up to the first write (the version, the build file,
its text, the package of the main class and the new build text) depends on the tree alone and
changes nothing: that is the run's *plan* (`Migration.plan`). What follows the plan
(`Migration.Plan.carry`) delivers the new build text, reports the leftovers and then sees to
the main source.

* `run_eq`: a run is its plan followed by the rest; a run whose plan fails leaves the sandbox
  as it was;
* `carry_dry`, `carry_real`: the rest of a dry and of a real run, written out;
* `plan_eq_ok`: what a plan that stands has found;
* `plan_buildFile`, `plan_mainPath`: for a project inside the tree, the build file is a file of
  the tree, and the main source of an application lies inside the tree, deeper than the build
  file.
-/

namespace BuildMigration

open Sandbox

/-- A piece of a package holds no `.`: the package is cut out of the main class at its dots. -/
theorem BuildText.dot_not_mem_of_packagePath {text : List Char} {pkg : List String}
    (h : packagePath text = .ok pkg) : ∀ seg ∈ pkg, '.' ∉ seg.toList := by
  unfold packagePath at h
  cases hn : mainClassName? text with
  | none => simp [hn] at h
  | some name =>
    simp only [hn, Except.ok.injEq] at h
    subst h
    intro seg hseg
    obtain ⟨g, hg, rfl⟩ := List.mem_map.1 hseg
    rw [String.toList_ofList]
    exact Text.sep_not_mem_of_mem_splitOn (List.dropLast_subset _ hg)

namespace MainSource

theorem ofString_src : PathName.ofString "src" = ⟨.relative, ["src"]⟩ := rfl

theorem ofString_main : PathName.ofString "main" = ⟨.relative, ["main"]⟩ := rfl

theorem ofString_scala : PathName.ofString "scala" = ⟨.relative, ["scala"]⟩ := rfl

theorem ofString_app : PathName.ofString "App.scala" = ⟨.relative, ["App.scala"]⟩ := rfl

/-- The fixed texts joined around the package are relative. -/
theorem anchor_fixed : ∀ s ∈ ["src", "main", "scala"] ++ ["App.scala"],
    (PathName.ofString s).anchor = .relative := by
  decide

/-- A main source whose package has no piece that starts with a slash lies in the build
    file's directory, in the directories that the package pieces name. -/
theorem path_of_relative (b : PathName) {pkg : List String}
    (hrel : ∀ seg ∈ pkg, seg.toList.head? ≠ some '/') :
    path b pkg = ⟨b.anchor, b.parent.parts ++ ["src", "main", "scala"] ++
      pkg.flatMap (fun seg => (PathName.ofString seg).parts) ++ ["App.scala"]⟩ := by
  have hall : ∀ s ∈ ["src", "main", "scala"] ++ pkg ++ ["App.scala"],
      (PathName.ofString s).anchor = .relative := by
    intro s hs
    simp only [List.mem_append] at hs
    rcases hs with (hs | hs) | hs
    · exact anchor_fixed s (List.mem_append_left _ hs)
    · exact PathName.anchorOf_of_head (hrel s hs)
    · exact anchor_fixed s (List.mem_append_right _ hs)
  rw [path, PathName.joinAll_relative _ hall]
  simp [PathName.parent, ofString_src, ofString_main, ofString_scala, ofString_app]

/-- The main source of a build file inside the tree, under a package of relative pieces
    without dots, lies inside the tree too, deeper than the build file. -/
theorem path_inside {bp : PathName} (hb : bp.Inside) {pkg : List String}
    (hdot : ∀ seg ∈ pkg, '.' ∉ seg.toList) (hrel : ∀ seg ∈ pkg, seg.toList.head? ≠ some '/') :
    (path bp pkg).Inside ∧ bp.parts.length < (path bp pkg).parts.length := by
  rw [path_of_relative bp hrel]
  refine ⟨⟨hb.1, ?_⟩, by simp [PathName.parent]; omega⟩
  -- a piece of the package has no dot, so none of its parts is `..`
  simp only [List.mem_append, List.mem_flatMap, not_or, not_exists, not_and]
  exact ⟨⟨⟨hb.parent.2, by decide⟩,
    fun s hs hx => hdot s hs (PathName.mem_of_mem_parts hx (by decide))⟩, by decide⟩

end MainSource

namespace Migration

/-- What a run settles before it changes anything. -/
structure Plan where
  /-- The target version, as validated. -/
  version : String
  /-- The build file found. -/
  buildFile : BuildFile
  /-- The package of the main class; empty for a library. -/
  package : List String
  /-- The rewritten build text. -/
  newText : List Char

namespace Plan

/-- The leftovers that the rewrite reports. -/
def warnings (p : Plan) : List String :=
  (BuildText.leftovers p.newText p.buildFile.isLibrary).map BuildText.Leftover.message

/-- Where the main source of an application lies. -/
def mainPath (p : Plan) : PathName := MainSource.path p.buildFile.path p.package

/-- The report of a run that went through, with the main source that it saw to. -/
def report (p : Plan) (mainFile : Option PathName) : Report :=
  ⟨p.buildFile, p.version, p.package, mainFile, p.warnings⟩

end Plan

/-- The plan of a run on a tree: every step up to the first write, each of which only reads. -/
def plan (t : FileTree) (req : Request) : Except Failure Plan := do
  let version ← (Version.validate req.version).mapError .expected
  if req.headerLines < 0 then throw (.expected (.negativeHeaderLines req.headerLines))
  let located ← (BuildFile.locate t.isFile req.project).mapError .file
  let buildFile ← located.mapError .expected
  let text ← t.fetch buildFile.path
  let package ← if buildFile.isLibrary then pure [] else
    (BuildText.packagePath text.toList).mapError .expected
  let newText ← (BuildText.rewrite text.toList version.toList buildFile.isLibrary).mapError .template
  pure ⟨version, buildFile, package, newText⟩

variable {m : Type → Type} [Monad m] [Workspace m] in
/-- The rest of a run once its plan stands: deliver the build text, report the leftovers, see
    to the main source, and close. -/
def Plan.carry (p : Plan) (req : Request) : ExceptT Failure m Report := do
  deliver req.dryRun p.buildFile.path (String.ofList p.newText)
  for w in p.warnings do
    say .err ("WARNING: " ++ p.buildFile.path.toString ++ ": " ++ w ++ "\n")
  let mainFile ← if p.buildFile.isLibrary then do
      say .out ("\nLibrary module detected (" ++ p.buildFile.path.toString ++
        "), skipping main file\n")
      pure none
    else do
      let source ← fetch p.mainPath
      deliver req.dryRun p.mainPath
        (String.ofList (MainSource.modernize source.toList req.headerLines))
      pure (some p.mainPath)
  unless req.dryRun do say .out (closing p.version)
  return p.report mainFile

/-- A run is its plan, then the rest; a run whose plan fails changes nothing. -/
theorem run_eq (req : Request) (s : Sandbox) :
    ((run req).run : SandboxM _).run s = match plan s.tree req with
      | .ok p => ((p.carry req).run : SandboxM _).run s
      | .error f => (.error f, s) := by
  unfold run plan
  rw [run_bind, run_orFail]
  -- one case split per step of the plan; past the plan both sides are the same run
  cases Version.validate req.version with
  | error e => rfl
  | ok version =>
    by_cases hh : req.headerLines < 0
    · simp only [Except.mapError, hh, if_true, run_bind, run_throw]
      rfl
    · simp only [Except.mapError, hh, if_false, run_bind, run_lift, BuildFile.run_locate,
        run_orFail, ok_bind]
      cases BuildFile.locate s.tree.isFile req.project with
      | error e => rfl
      | ok located =>
        cases located with
        | error e => rfl
        | ok b =>
          obtain ⟨path, isLibrary⟩ := b
          simp only [run_fetch, ok_bind]
          cases s.tree.fetch path with
          | error e => rfl
          | ok text =>
            cases isLibrary
            · simp only [Bool.false_eq_true, if_false, run_bind, run_orFail, Except.mapError, ok_bind]
              cases BuildText.packagePath text.toList with
              | error e => rfl
              | ok package =>
                simp only [ok_bind]
                cases BuildText.rewrite text.toList version.toList false with
                | error e => rfl
                | ok newText =>
                  simp only [ok_bind, pure_eq_ok, Plan.carry, Plan.warnings,
                    Plan.mainPath, Plan.report, run_bind, Bool.false_eq_true, if_false]
            · simp only [if_true, run_bind, run_pure, run_orFail, Except.mapError, ok_bind]
              cases BuildText.rewrite text.toList version.toList true with
              | error e => rfl
              | ok newText =>
                simp only [ok_bind, pure_eq_ok, Plan.carry, Plan.warnings,
                  Plan.mainPath, Plan.report, run_bind, if_true]
                rfl

/-- A plan does not depend on whether the run is dry. -/
theorem plan_dryRun (t : FileTree) (req : Request) (d : Bool) :
    plan t { req with dryRun := d } = plan t req := rfl

/-- A plan reads the header count only for its sign. -/
theorem plan_headerLines (t : FileTree) (req : Request) {h : Int} (h0 : 0 ≤ h)
    (h0' : 0 ≤ req.headerLines) : plan t { req with headerLines := h } = plan t req := by
  simp only [plan, Int.not_lt.2 h0, Int.not_lt.2 h0', if_false]

/-- What a dry run prints for a file: its path between two rules, then its text. -/
def framed (path : PathName) (text : String) : String :=
  rule ++ "\n" ++ path.toString ++ "\n" ++ rule ++ "\n" ++ text ++ "\n"

/-- What a real run prints for a file it wrote. -/
def ticked (path : PathName) : String := "  ✓ " ++ path.toString ++ "\n"

/-- The warnings about the leftovers in the build file at `path`, one line each. -/
def warningLines (path : PathName) (ws : List String) : String :=
  String.join (ws.map fun w => "WARNING: " ++ path.toString ++ ": " ++ w ++ "\n")

/-- The note that a run prints for a library, whose main source it leaves alone. -/
def libraryNote (path : PathName) : String :=
  "\nLibrary module detected (" ++ path.toString ++ "), skipping main file\n"

theorem run_deliver_dry (path : PathName) (text : String) (s : Sandbox) :
    (deliver true path text : ExceptT Failure SandboxM Unit).run.run s =
      (.ok (), s.print .out (framed path text)) := rfl

theorem run_deliver_real (path : PathName) (text : String) (s : Sandbox) :
    (deliver false path text : ExceptT Failure SandboxM Unit).run.run s =
      match s.write path text.toUTF8 with
      | .ok s' => (.ok (), s'.print .out (ticked path))
      | .error e => (.error (.file e), s) := by
  simp only [deliver, Bool.false_eq_true, if_false, run_bind, run_lift, run_writeFile]
  cases s.write path text.toUTF8 <;> rfl

theorem run_warnings (path : PathName) (ws : List String) (s : Sandbox) :
    (forIn ws PUnit.unit (fun w _ => do
        say .err ("WARNING: " ++ path.toString ++ ": " ++ w ++ "\n")
        pure (ForInStep.yield PUnit.unit)) : ExceptT Failure SandboxM PUnit).run.run s =
      (.ok PUnit.unit, s.print .err (warningLines path ws)) := by
  induction ws generalizing s with
  | nil =>
    simp only [List.forIn_nil, run_pure, warningLines, List.map_nil, String.join_nil]
    cases s
    simp
  | cons w ws ih =>
    simp only [List.forIn_cons, run_bind, run_say, run_pure, ih, print_print]
    simp [warningLines]

/-- The rest of a dry run: it shows the new build text, reports the leftovers and, for an
    application, shows the new main source; it writes nothing. -/
theorem carry_dry (p : Plan) (req : Request) (hdry : req.dryRun = true) (s : Sandbox) :
    ((p.carry req).run : SandboxM _).run s =
      let s1 := (s.print .out (framed p.buildFile.path (String.ofList p.newText))).print .err
        (warningLines p.buildFile.path p.warnings)
      if p.buildFile.isLibrary then
        (.ok (p.report none), s1.print .out (libraryNote p.buildFile.path))
      else match s.tree.fetch p.mainPath with
        | .error f => (.error f, s1)
        | .ok src => (.ok (p.report (some p.mainPath)), s1.print .out
            (framed p.mainPath (String.ofList (MainSource.modernize src.toList req.headerLines)))) := by
  simp only [Plan.carry, hdry, run_bind, run_deliver_dry, run_warnings]
  cases p.buildFile.isLibrary
  · simp only [Bool.false_eq_true, if_false, run_bind, run_fetch, tree_print]
    cases s.tree.fetch p.mainPath <;> rfl
  · rfl

/-- The rest of a real run: it writes the new build text, reports the leftovers and, for an
    application, reads the main source and writes its new text. -/
theorem carry_real (p : Plan) (req : Request) (hreal : req.dryRun = false) (s : Sandbox) :
    ((p.carry req).run : SandboxM _).run s =
      match s.write p.buildFile.path (String.ofList p.newText).toUTF8 with
      | .error e => (.error (.file e), s)
      | .ok s1 =>
        let s2 := (s1.print .out (ticked p.buildFile.path)).print .err
          (warningLines p.buildFile.path p.warnings)
        if p.buildFile.isLibrary then
          (.ok (p.report none), (s2.print .out (libraryNote p.buildFile.path)).print .out
            (closing p.version))
        else match s2.tree.fetch p.mainPath with
          | .error f => (.error f, s2)
          | .ok src =>
            match s2.write p.mainPath
                (String.ofList (MainSource.modernize src.toList req.headerLines)).toUTF8 with
            | .error e => (.error (.file e), s2)
            | .ok s3 => (.ok (p.report (some p.mainPath)),
                (s3.print .out (ticked p.mainPath)).print .out (closing p.version)) := by
  simp only [Plan.carry, hreal, run_bind, run_deliver_real]
  cases s.write p.buildFile.path (String.ofList p.newText).toUTF8 with
  | error e => rfl
  | ok s1 =>
    simp only [run_warnings]
    generalize (s1.print .out (ticked p.buildFile.path)).print .err
      (warningLines p.buildFile.path p.warnings) = s2
    cases p.buildFile.isLibrary
    · simp only [Bool.false_eq_true, if_false, run_bind, run_fetch]
      cases s2.tree.fetch p.mainPath with
      | error f => rfl
      | ok src =>
        simp only [run_deliver_real]
        cases s2.write p.mainPath
          (String.ofList (MainSource.modernize src.toList req.headerLines)).toUTF8 <;> rfl
    · rfl

variable {t : FileTree} {req : Request} {p : Plan}

/-- What a plan that stands has found, step by step. -/
theorem plan_eq_ok (h : plan t req = .ok p) :
    Version.validate req.version = .ok p.version ∧ 0 ≤ req.headerLines ∧
      BuildFile.locate t.isFile req.project = .ok (.ok p.buildFile) ∧
      ∃ text, t.fetch p.buildFile.path = .ok text ∧
        (p.buildFile.isLibrary = false → BuildText.packagePath text.toList = .ok p.package) ∧
        (p.buildFile.isLibrary = true → p.package = []) ∧
        BuildText.rewrite text.toList p.version.toList p.buildFile.isLibrary = .ok p.newText := by
  by_cases hh : req.headerLines < 0
  · simp [plan, hh, bind_eq_ok, throw, throwThe, MonadExceptOf.throw, error_bind] at h
  -- each step of the plan succeeded with what it found
  simp only [plan, hh, if_false, bind_eq_ok, mapError_eq_ok] at h
  obtain ⟨version, hv, located, hl, b, rfl, text, hf, h⟩ := h
  -- the package is read for an application only
  cases hlib : b.isLibrary
  · simp only [hlib, Bool.false_eq_true, if_false, bind_eq_ok, mapError_eq_ok, pure_eq_ok,
      Except.ok.injEq] at h
    obtain ⟨pkg, hpk, newText, hr, rfl⟩ := h
    exact ⟨hv, by omega, hl, text, hf, fun _ => hpk, by simp [hlib], hlib ▸ hr⟩
  · simp only [hlib, if_true, bind_eq_ok, mapError_eq_ok, pure_eq_ok, Except.ok.injEq] at h
    obtain ⟨pkg, rfl, newText, hr, rfl⟩ := h
    exact ⟨hv, by omega, hl, text, hf, by simp [hlib], fun _ => rfl, hlib ▸ hr⟩

/-- For a project inside the tree, the build file of a plan lies inside the tree, and names a
    file of it. -/
theorem plan_buildFile (hin : req.project.Inside) (hp : plan t req = .ok p) :
    p.buildFile.path.Inside ∧ t.Names p.buildFile.path p.buildFile.path.parts := by
  obtain ⟨-, -, hl, -⟩ := plan_eq_ok hp
  obtain ⟨hf, hb⟩ := BuildFile.locate_eq_ok hl
  have hin' : p.buildFile.path.Inside := by
    rcases hb with hb | hb
    · rw [hb]
      exact hin
    · exact BuildFile.inside_of_mem_candidates hin hb
  exact ⟨hin', FileTree.names_of_isFile hf hin'⟩

/-- For a project inside the tree, the main source of an application whose package pieces are
    relative lies inside the tree, deeper than the build file. -/
theorem plan_mainPath (hin : req.project.Inside) (hp : plan t req = .ok p)
    (hlib : p.buildFile.isLibrary = false) (hrel : ∀ seg ∈ p.package, seg.toList.head? ≠ some '/') :
    p.mainPath.Inside ∧ p.buildFile.path.parts.length < p.mainPath.parts.length := by
  obtain ⟨-, -, -, text, -, hpk, -, -⟩ := plan_eq_ok hp
  exact MainSource.path_inside (plan_buildFile hin hp).1
    (BuildText.dot_not_mem_of_packagePath (hpk hlib)) hrel

/-- For a project inside the tree, the main source of an application whose package pieces are
    relative leads to a place of the tree other than the build file. -/
theorem plan_mainPath_apart (hin : req.project.Inside) (hp : plan t req = .ok p)
    (hlib : p.buildFile.isLibrary = false) (hrel : ∀ seg ∈ p.package, seg.toList.head? ≠ some '/') :
    ∀ pl e, t.resolve p.mainPath = .reached pl e → ∃ qs, pl = .tree qs ∧ qs ≠ p.buildFile.path.parts := by
  intro pl e hr
  obtain ⟨hmin, hlen⟩ := plan_mainPath hin hp hlib hrel
  refine ⟨_, (FileTree.resolve_of_inside hmin hr).1, ?_⟩
  intro heq
  rw [heq] at hlen
  exact Nat.lt_irrefl _ hlen

end Migration

namespace FileTree

variable {t : FileTree} {bp mp : PathName} {bps : List String}

/-- A path apart from `bps` never resolves to it. -/
theorem not_reached_of_apart
    (hap : ∀ pl e, t.resolve mp = .reached pl e → ∃ qs, pl = .tree qs ∧ qs ≠ bps) :
    ∀ e, t.resolve mp ≠ .reached (.tree bps) e := by
  intro e hr
  obtain ⟨qs, hq, hne⟩ := hap _ _ hr
  exact hne (Place.tree.inj hq).symm

/-- A main source that was fetched, through a path that leads into the tree apart from the build
    file, names a file of the tree; it names the same file once the build file is written. -/
theorem names_of_fetch_apart (hb : t.Names bp bps) {src : String} (hf : t.fetch mp = .ok src)
    (hap : ∀ pl e, t.resolve mp = .reached pl e → ∃ qs, pl = .tree qs ∧ qs ≠ bps)
    (b : ByteArray) : ∃ qs, qs ≠ bps ∧ t.Names mp qs ∧ (t.put bps b).Names mp qs := by
  obtain ⟨c, hrd, -⟩ := fetch_eq_ok hf
  obtain ⟨qs, hmn, -⟩ := names_of_read hrd fun pl e hr => (hap pl e hr).imp fun _ h => h.1
  -- the place the path leads to is the one that `hap` keeps apart
  obtain ⟨qs', hq', hne⟩ := hap _ _ hmn.2.choose_spec
  cases Place.tree.inj hq'
  exact ⟨qs, hne, hmn, hmn.put_of_ne hb.mem_paths hne b⟩

end FileTree

end BuildMigration
