import BuildMigration.Proofs.Plan
/-!
# The main source file

An application's main source lies under `src/main/scala` next to its build file, in the
directories of its package, and migrating it keeps the first lines of the file and puts the
Scala 3 entry point after them.

**Where it lies.** The path is built by joining texts onto the build file's directory: first
`src`, `main` and `scala`, then each piece of the package, then `App.scala`. A package piece
holds no dot, so the slashes in it only add directories and drop empty names. But joining a
text that starts with a slash starts the path over from the root, and a package piece can
start with a slash (`mainClass = "/x.App"`): the main source then lies outside the project,
under the last such piece (`mainSource_leaves_project`).

**What it becomes.** After every carriage return is deleted, the source is cut into lines at
its line feeds; the new source is the kept lines (one empty line when none is kept), a line
feed and the stub, whose lines are the entry point, its body, and an empty line after the
last line feed. Modernizing the new source again keeps its first lines again; that gives the
same source exactly when the count reached no further than the old source's lines, since a
larger count also keeps the first line of the stub.

* `PathName.joinAll_restart`: joining starts over at the last anchored text;
* `mainSource_components`: the components of the main source's path, whether or not a package
  piece starts with a slash;
* `splitOn_modernize`, `cr_not_mem_modernize`: the lines of the new source;
* `modernize_modernize_iff`: modernizing twice is modernizing once exactly when the count
  reaches no further than the lines of the source;
* `modernize_shape`: all of these facts about the new source together.
-/

namespace BuildMigration

open Text

namespace PathName

/-- The components of a path one by one, as a path library lists them: the anchor (`/` or
    `//`) first when there is one, then the parts. -/
def components (p : PathName) : List String :=
  match p.anchor with
  | .relative => p.parts
  | a => Anchor.text a :: p.parts

/-- The nonempty pieces of a text between its slashes. -/
def slashPieces (s : String) : List String :=
  ((splitOn '/' s.toList).filter (· ≠ [])).map String.ofList

theorem components_of_anchored {p : PathName} (h : p.anchor ≠ .relative) :
    p.components = Anchor.text p.anchor :: p.parts := by
  unfold components
  split
  · contradiction
  · rfl

theorem joinAll_append (p : PathName) (ss ts : List String) :
    p.joinAll (ss ++ ts) = (p.joinAll ss).joinAll ts :=
  List.foldl_append

theorem join_of_anchored (p : PathName) {s : String} (h : (ofString s).anchor ≠ .relative) :
    p.join s = ofString s := by
  cases hq : (ofString s).anchor with
  | relative => exact absurd hq h
  | root | doubleRoot => simp [join, hq]

/-- Joining starts over at the last anchored text: what came before it is forgotten, and the
    relative texts after it add their parts. -/
theorem joinAll_restart (p : PathName) (pre : List String) {s : String} {post : List String}
    (hs : (ofString s).anchor ≠ .relative) (hpost : ∀ x ∈ post, (ofString x).anchor = .relative) :
    p.joinAll (pre ++ s :: post) =
      ⟨(ofString s).anchor, (ofString s).parts ++ post.flatMap fun x => (ofString x).parts⟩ := by
  rw [joinAll_append, show (p.joinAll pre).joinAll (s :: post) =
    ((p.joinAll pre).join s).joinAll post from rfl, join_of_anchored _ hs, joinAll_relative _ hpost]

/-- A text without dots names the nonempty pieces between its slashes: none of them is `.`. -/
theorem parts_ofString_of_dot_not_mem {s : String} (h : '.' ∉ s.toList) :
    (ofString s).parts = slashPieces s := by
  rw [parts_ofString, slashPieces]
  congr 1
  apply List.filter_congr
  intro g hg
  have hdot : g ≠ ['.'] := by
    rintro rfl
    exact h (mem_of_mem_splitOn hg (List.mem_singleton_self _))
  simp [isPart, hdot]

/-- A text that starts with a slash is anchored: at `//` when exactly two slashes open it,
    at `/` otherwise. -/
theorem anchorOf_of_head_slash {cs : List Char} (h : cs.head? = some '/') :
    anchorOf cs ≠ .relative ∧
      Anchor.text (anchorOf cs) = if (cs.takeWhile (· = '/')).length = 2 then "//" else "/" := by
  have hpos : (cs.takeWhile (· = '/')).length ≠ 0 := by
    cases cs with
    | nil => simp at h
    | cons c rest => simp_all
  unfold anchorOf
  generalize (cs.takeWhile (· = '/')).length = n at hpos ⊢
  rcases n with _ | _ | _ | n
  · contradiction
  all_goals simp [Anchor.text]

end PathName

namespace MainSource

open PathName BuildText

/-- The components of the path of an application's main source, for a relative build file
    and the package of a main class. When no package piece starts with a slash, they are the
    parts of the build file's directory, `src`, `main`, `scala`, the nonempty pieces between
    the slashes of each package piece, and `App.scala`. Otherwise the path starts over at the
    last piece that starts with a slash: its anchor, then the nonempty pieces of that piece
    and of the pieces after it, and `App.scala`. -/
theorem mainSource_components {b : PathName} (hb : b.IsRelative) {t : List Char}
    {pkg : List String} (ht : packagePath t = .ok pkg) :
    ((∀ seg ∈ pkg, seg.toList.head? ≠ some '/') →
      (path b pkg).components =
        b.parent.parts ++ ["src", "main", "scala"] ++ pkg.flatMap slashPieces ++ ["App.scala"]) ∧
    (∀ pre seg post, pkg = pre ++ seg :: post → seg.toList.head? = some '/' →
      (∀ x ∈ post, x.toList.head? ≠ some '/') →
      (path b pkg).components =
        (if (seg.toList.takeWhile (· = '/')).length = 2 then "//" else "/") ::
          ((seg :: post).flatMap slashPieces ++ ["App.scala"])) := by
  -- the package pieces hold no dot, so each names its nonempty pieces between slashes
  have hpieces : ∀ seg ∈ pkg, (ofString seg).parts = slashPieces seg := fun seg hseg =>
    parts_ofString_of_dot_not_mem (dot_not_mem_of_packagePath ht seg hseg)
  refine ⟨fun hrel => ?relative, fun pre seg post hpkg hseg hpost => ?restart⟩
  case relative =>
    rw [path_of_relative b hrel, components, List.flatMap_congr hpieces]
    simp only [show b.anchor = .relative from hb]
  case restart =>
    obtain ⟨hanchor, htext⟩ := anchorOf_of_head_slash hseg
    have hpost' : ∀ x ∈ post ++ ["App.scala"], (ofString x).anchor = .relative := by
      intro x hx
      rcases List.mem_append.1 hx with hx | hx
      · exact anchorOf_of_head (hpost x hx)
      · exact anchor_fixed x (List.mem_append_right _ hx)
    have hjoin := joinAll_restart b.parent (["src", "main", "scala"] ++ pre) hanchor hpost'
    rw [path, hpkg, show ["src", "main", "scala"] ++ (pre ++ seg :: post) ++ ["App.scala"] =
      (["src", "main", "scala"] ++ pre) ++ seg :: (post ++ ["App.scala"]) by simp, hjoin,
      components_of_anchored hanchor]
    have hseg' := hpieces seg (by simp [hpkg])
    have hpost'' : ∀ x ∈ post, (ofString x).parts = slashPieces x :=
      fun x hx => hpieces x (by simp [hpkg, hx])
    simp only [List.flatMap_append, List.flatMap_cons, List.flatMap_nil, ofString_app,
      List.append_nil, List.flatMap_congr hpost'', hseg']
    exact congrArg₂ _ htext (List.append_assoc _ _ _).symm

/-- The package of `mainClass = "/x.App"` is `/x`, which starts over at the root: the main
    source lies at `/x/App.scala`, not under the build file's directory. -/
theorem mainSource_leaves_project :
    packagePath "mainClass = \"/x.App\"".toList = .ok ["/x"] ∧
      (path (ofString "build.gradle") ["/x"]).components = ["/", "x", "App.scala"] ∧
      (ofString "build.gradle").parent.parts ++ ["src", "main", "scala"] ++
          ["/x"].flatMap slashPieces ++ ["App.scala"] = ["src", "main", "scala", "x", "App.scala"] := by
  have hname : mainClassName? "mainClass = \"/x.App\"".toList = some "/x.App".toList := by decide
  refine ⟨?_, by decide, by decide⟩
  simp only [packagePath, hname]
  decide

/-- The build file of an `app` module, with the main class `com.example.App`. -/
theorem mainSource_components_app :
    (ofString "app/build.gradle").IsRelative ∧
      packagePath "mainClass = \"com.example.App\"".toList = .ok ["com", "example"] ∧
      (path (ofString "app/build.gradle") ["com", "example"]).components =
        ["app", "src", "main", "scala", "com", "example", "App.scala"] := by
  have hb : (ofString "app/build.gradle").IsRelative := by decide
  have hname : mainClassName? "mainClass = \"com.example.App\"".toList =
      some "com.example.App".toList := by
    decide
  have ht : packagePath "mainClass = \"com.example.App\"".toList = .ok ["com", "example"] := by
    simp only [packagePath, hname]
    decide
  refine ⟨hb, ht, ?_⟩
  rw [(mainSource_components hb ht).1 (by decide)]
  decide

/-- The lines of the stub: the entry point, its body, and the empty line after the last line
    feed. -/
theorem splitOn_stub :
    splitOn '\n' stub = ["@main def main() =".toList, "\tprintln(\"Hello World!\")".toList, []] := by
  decide

theorem keepLines_natCast {α : Type} (h : Nat) (l : List α) : keepLines (h : Int) l = l.take h := by
  simp [keepLines]

theorem mem_of_mem_keepLines {α : Type} {h : Int} {l : List α} {x : α} (hx : x ∈ keepLines h l) :
    x ∈ l := by
  unfold keepLines at hx
  split at hx <;> exact List.mem_of_mem_take hx

/-- The lines of a source hold neither line feeds nor carriage returns. -/
theorem not_mem_of_mem_lines {src l : List Char} (hl : l ∈ lines src) : '\n' ∉ l ∧ '\r' ∉ l := by
  refine ⟨sep_not_mem_of_mem_splitOn hl, fun hr => ?_⟩
  have := mem_of_mem_splitOn hl hr
  simp at this

theorem cr_not_mem_modernize (src : List Char) (h : Int) : '\r' ∉ modernize src h := by
  simp only [modernize, List.mem_append, List.mem_cons, not_or]
  exact ⟨not_mem_joinWith (by decide) fun g hg =>
    (not_mem_of_mem_lines (mem_of_mem_keepLines hg)).2, by decide, stub_no_cr⟩

/-- The new source holds no carriage return, so its lines are its pieces between line feeds. -/
theorem lines_modernize (src : List Char) (h : Int) :
    lines (modernize src h) = splitOn '\n' (modernize src h) := by
  rw [lines, List.filter_eq_self.2]
  intro c hc
  have : c ≠ '\r' := fun e => cr_not_mem_modernize src h (e ▸ hc)
  simpa using this

/-- The pieces of the new source between line feeds: the kept lines, or one empty line when
    the count keeps none, then the lines of the stub. -/
theorem splitOn_modernize (src : List Char) (h : Nat) :
    splitOn '\n' (modernize src h) =
      (if h = 0 then [[]] else (lines src).take h) ++ splitOn '\n' stub := by
  -- no kept line and one empty kept line are joined alike
  have hjoin : modernize src h =
      joinWith '\n' (if h = 0 then [[]] else (lines src).take h) ++ '\n' :: stub := by
    rw [modernize, keepLines_natCast]
    split
    · subst_vars
      rfl
    · rfl
  rw [hjoin]
  apply splitOn_joinWith_append
  · split
    · simp
    · simp [splitOn_ne_nil, lines, *]
  · intro g hg
    split at hg
    · simp_all
    · exact (not_mem_of_mem_lines (List.mem_of_mem_take hg)).1

/-- Modernizing the new source again gives it back exactly when the count reaches no further
    than the lines of the old source: a larger count keeps the first line of the stub too. -/
theorem modernize_modernize_iff (src : List Char) (h : Nat) :
    modernize (modernize src h) h = modernize src h ↔ h ≤ (lines src).length := by
  -- a text is fixed by its pieces between line feeds
  have hpieces : ∀ x y : List Char, x = y ↔ splitOn '\n' x = splitOn '\n' y := fun x y =>
    ⟨congrArg _, fun e => by rw [← joinWith_splitOn '\n' x, e, joinWith_splitOn]⟩
  rw [hpieces, splitOn_modernize, lines_modernize, splitOn_modernize src h,
    List.append_cancel_right_eq]
  rcases Nat.eq_zero_or_pos h with rfl | hpos
  · simp
  · simp only [Nat.pos_iff_ne_zero.1 hpos, if_false]
    constructor
    · intro heq
      have hlen := congrArg List.length heq
      simp only [List.length_take, List.length_append, splitOn_stub, List.length_cons,
        List.length_nil] at hlen
      omega
    · intro hle
      exact List.take_left' (by simp; omega)

/-- Modernizing twice with a count that the source's lines reach is modernizing once. -/
theorem modernize_modernize {src : List Char} {h : Int} (h0 : 0 ≤ h)
    (hl : h ≤ (lines src).length) : modernize (modernize src h) h = modernize src h := by
  lift h to Nat using h0
  exact (modernize_modernize_iff src h).2 (by exact_mod_cast hl)

/-- The new source holds no carriage return; cut at its line feeds, it is the first `h`
    lines of the source (one empty line when `h` is zero), then the entry point, its body and
    an empty line. Modernizing it again with the same count gives it back exactly when the
    source had at least `h` lines. -/
theorem modernize_shape (src : List Char) (h : Nat) :
    '\r' ∉ modernize src h ∧
      splitOn '\n' (modernize src h) =
        (if h = 0 then [[]] else (lines src).take h) ++
          ["@main def main() =".toList, "\tprintln(\"Hello World!\")".toList, []] ∧
      (modernize (modernize src h) h = modernize src h ↔ h ≤ (lines src).length) :=
  ⟨cr_not_mem_modernize src h, splitOn_stub ▸ splitOn_modernize src h,
    modernize_modernize_iff src h⟩

end MainSource

end BuildMigration
