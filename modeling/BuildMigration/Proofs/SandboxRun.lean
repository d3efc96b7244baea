import Mathlib
import BuildMigration.Migration.Run
import BuildMigration.Proofs.Resolution
/-!
# Running in a sandbox

A migration is written against any workspace; run in a sandbox it is a function from the
sandbox before to its answer and the sandbox after. This module says what each operation does
there, once, so that later proofs follow a run step by step and never unfold the monad:
`run_bind` splits a run at a bind, and one lemma per operation gives its answer and the sandbox
after it.

Reading is pure: a fetch (`FileTree.fetch`) and the search for the build file
(`BuildFile.run_locate`) leave the sandbox as it is and answer what the tree alone decides.

* `run_bind`: a run through a bind, its failure passed on;
* `run_fetch`, `BuildFile.run_locate`: the reads of a run, as functions of the tree;
* `BuildFile.locate_eq_ok`: the build file found is a regular file, the path itself or a
  candidate under it.
-/

namespace BuildMigration

section Except

variable {ε α β : Type}

theorem ok_bind (a : α) (f : α → Except ε β) : (Except.ok a >>= f) = f a := rfl

theorem error_bind (e : ε) (f : α → Except ε β) : (Except.error e >>= f) = Except.error e := rfl

theorem pure_eq_ok (a : α) : (pure a : Except ε α) = Except.ok a := rfl

/-- A sequence of steps succeeds exactly when its first step succeeds and the rest succeeds on
    what the first gave. -/
theorem bind_eq_ok {x : Except ε α} {f : α → Except ε β} {b : β} :
    x >>= f = .ok b ↔ ∃ a, x = .ok a ∧ f a = .ok b := by
  cases x <;> simp [ok_bind, error_bind]

theorem mapError_eq_ok {ε' : Type} {x : Except ε α} {f : ε → ε'} {a : α} :
    x.mapError f = .ok a ↔ x = .ok a := by
  cases x <;> simp [Except.mapError]

end Except

namespace Sandbox

variable {ε α β : Type}

/-- A run through a bind: the second part runs on the sandbox the first one left, unless the
    first one failed. -/
theorem run_bind (x : ExceptT ε SandboxM α) (f : α → ExceptT ε SandboxM β) (s : Sandbox) :
    (x >>= f).run.run s = match x.run.run s with
      | (.ok a, s') => (f a).run.run s'
      | (.error e, s') => (.error e, s') := by
  simp only [ExceptT.run_bind, StateT.run_bind]
  rcases x.run.run s with ⟨_ | a, s'⟩ <;> rfl

@[simp] theorem run_pure (a : α) (s : Sandbox) :
    (pure a : ExceptT ε SandboxM α).run.run s = (.ok a, s) := rfl

@[simp] theorem run_throw (e : ε) (s : Sandbox) :
    (throw e : ExceptT ε SandboxM α).run.run s = (.error e, s) := rfl

@[simp] theorem run_lift (x : SandboxM α) (s : Sandbox) :
    (ExceptT.lift x : ExceptT ε SandboxM α).run.run s = (.ok (x.run s).1, (x.run s).2) := rfl

@[simp] theorem run_isFile (p : PathName) (s : Sandbox) :
    (Workspace.isFile p : SandboxM _).run s = (s.tree.isFile p, s) := rfl

@[simp] theorem run_readFile (p : PathName) (s : Sandbox) :
    (Workspace.readFile p : SandboxM _).run s = (s.tree.read p, s) := rfl

@[simp] theorem run_emit (ch : Channel) (text : String) (s : Sandbox) :
    (Workspace.emit ch text : SandboxM _).run s = ((), s.print ch text) := rfl

theorem run_writeFile (p : PathName) (b : ByteArray) (s : Sandbox) :
    (Workspace.writeFile p b : SandboxM _).run s =
      (match s.write p b with
        | .ok s' => (.ok (), s')
        | .error e => (.error e, s) : Except FileFault Unit × Sandbox) := by
  cases h : s.write p b <;> simp [Workspace.writeFile, h] <;> rfl

@[simp] theorem run_orFail (r : Except ε α) (f : ε → Failure) (s : Sandbox) :
    (Migration.orFail r f : ExceptT Failure SandboxM α).run.run s = (r.mapError f, s) := by
  cases r <;> rfl

@[simp] theorem run_say (ch : Channel) (text : String) (s : Sandbox) :
    (Migration.say ch text : ExceptT Failure SandboxM Unit).run.run s = (.ok (), s.print ch text) :=
  rfl

theorem print_print (s : Sandbox) (ch : Channel) (a b : String) :
    (s.print ch a).print ch b = s.print ch (a ++ b) := by
  cases ch <;> simp [print, String.append_assoc]

@[simp] theorem tree_print (s : Sandbox) (ch : Channel) (a : String) :
    (s.print ch a).tree = s.tree := by
  cases ch <;> rfl

@[simp] theorem print_out (s : Sandbox) (a : String) :
    s.print .out a = { s with out := s.out ++ a } := rfl

@[simp] theorem print_err (s : Sandbox) (a : String) :
    s.print .err a = { s with err := s.err ++ a } := rfl

/-- Writing through a path that names a file of the tree puts the bytes there. -/
theorem write_of_names {s : Sandbox} {p : PathName} {ps : List String} (h : s.tree.Names p ps)
    (b : ByteArray) : s.write p b = .ok { s with tree := s.tree.put ps b } := by
  simp [write, h.write]

section State

@[simp] theorem id_pure (a : α) : (pure a : Id α) = a := rfl

-- the map of the monad: under a library with a traversable identity, a bare instance search
-- would find another one
@[simp] theorem id_map (f : α → β) (x : α) : @Functor.map Id Applicative.toFunctor _ _ f x = f x :=
  rfl

/-- A step of the sandbox's state monad: the second part runs on the sandbox the first left. -/
theorem runState_bind (x : SandboxM α) (f : α → SandboxM β) (s : Sandbox) :
    (x >>= f).run s = (f (x.run s).1).run (x.run s).2 := rfl

end State

end Sandbox

namespace FileTree

/-- The text of a file of the tree, read as UTF-8. -/
def fetch (t : FileTree) (p : PathName) : Except Failure String := do
  let bytes ← (t.read p).mapError .file
  (Text.decode bytes).mapError .decode

variable {t : FileTree} {p : PathName}

theorem fetch_eq_ok {src : String} (h : t.fetch p = .ok src) :
    ∃ b, t.read p = .ok b ∧ Text.decode b = .ok src := by
  simpa only [fetch, bind_eq_ok, mapError_eq_ok] using h

/-- A fetch of the bytes of a text gives the text. -/
theorem fetch_of_read {text : String} (h : t.read p = .ok text.toUTF8) : t.fetch p = .ok text := by
  simp only [fetch, h, Except.mapError, ok_bind, Text.decode_toUTF8]

/-- After a write, a fetch through a path that leads elsewhere gives what it gave before. -/
theorem fetch_put_of_ne {qs : List String} (hq : qs ∈ t.paths) (b : ByteArray)
    (hne : ∀ e, t.resolve p ≠ .reached (.tree qs) e) : (t.put qs b).fetch p = t.fetch p := by
  simp only [fetch, read_put_of_ne hq b hne]

/-- A fetch fails only with a fault of the file or of its text, never with an expected
    failure. -/
theorem fetch_ne_expected (p : PathName) (e : MigrationError) :
    t.fetch p ≠ .error (.expected e) := by
  unfold fetch
  cases t.read p with
  | error f => simp [Except.mapError, error_bind]
  | ok b => cases hd : Text.decode b <;> simp [hd, Except.mapError, ok_bind]

/-- A path inside the tree that names a regular file names the file at its parts. -/
theorem names_of_isFile (h : t.isFile p = .ok true) (hp : p.Inside) : t.Names p p.parts := by
  simp only [isFile] at h
  split at h
  · cases h
  · rename_i hn
    split at h
    · rename_i pl b hr
      obtain ⟨rfl, -⟩ := resolve_of_inside hp hr
      exact ⟨by simpa using hn, b, hr⟩
    · cases h
    · cases h

end FileTree

open Sandbox

theorem Migration.run_fetch (p : PathName) (s : Sandbox) :
    (Migration.fetch p : ExceptT Failure SandboxM String).run.run s = (s.tree.fetch p, s) := by
  simp only [Migration.fetch, FileTree.fetch, run_bind, run_lift, run_readFile, run_orFail]
  cases s.tree.read p <;> rfl

namespace BuildFile

theorem run_firstFile (bs : List BuildFile) (s : Sandbox) :
    (firstFile (fun p => ExceptT.mk (Workspace.isFile p)) bs : ExceptT FileFault SandboxM _).run.run s =
      (firstFile s.tree.isFile bs, s) := by
  induction bs with
  | nil => rfl
  | cons b bs ih =>
    simp only [firstFile, run_bind, ExceptT.run_mk, run_isFile]
    cases s.tree.isFile b.path with
    | error e => rfl
    | ok found =>
      cases found
      · exact ih
      · rfl

/-- Locating the build file in a sandbox reads the tree and changes nothing. -/
theorem run_locate (path : PathName) (s : Sandbox) :
    (locate (fun p => ExceptT.mk (Workspace.isFile p)) path : ExceptT FileFault SandboxM _).run.run s =
      (locate s.tree.isFile path, s) := by
  simp only [locate, run_bind, ExceptT.run_mk, run_isFile]
  cases s.tree.isFile path with
  | error e => rfl
  | ok found =>
    cases found
    · simp only [Bool.false_eq_true, if_false, run_bind, run_firstFile]
      cases firstFile s.tree.isFile (candidates path) with
      | error e => rfl
      | ok o => cases o <;> rfl
    · rfl

variable {f : PathName → Except FileFault Bool}

theorem firstFile_eq_some {bs : List BuildFile} {b : BuildFile}
    (h : firstFile f bs = .ok (some b)) : f b.path = .ok true ∧ b ∈ bs := by
  induction bs with
  | nil => cases h
  | cons c bs ih =>
    simp only [firstFile, bind_eq_ok] at h
    obtain ⟨found, hc, h⟩ := h
    cases found
    · exact ⟨(ih h).1, List.mem_cons_of_mem _ (ih h).2⟩
    · simp only [if_true, pure_eq_ok, Except.ok.injEq, Option.some.injEq] at h
      subst h
      exact ⟨hc, List.mem_cons_self⟩

/-- The build file found for a path is a regular file: the path itself, or a candidate under
    it. -/
theorem locate_eq_ok {path : PathName} {b : BuildFile} (h : locate f path = .ok (.ok b)) :
    f b.path = .ok true ∧ (b = ⟨path, false⟩ ∨ b ∈ candidates path) := by
  simp only [locate, bind_eq_ok] at h
  obtain ⟨found, hp, h⟩ := h
  cases found
  · -- the path is no regular file: the search along the candidates found one
    simp only [Bool.false_eq_true, if_false, bind_eq_ok] at h
    obtain ⟨o, hc, h⟩ := h
    cases o with
    | none => cases h
    | some c =>
      simp only [pure_eq_ok, Except.ok.injEq] at h
      subst h
      exact ⟨(firstFile_eq_some hc).1, .inr (firstFile_eq_some hc).2⟩
  · simp only [if_true, pure_eq_ok, Except.ok.injEq] at h
    subst h
    exact ⟨hp, .inl rfl⟩

/-- The candidates under a path inside the tree are inside it too. -/
theorem inside_of_mem_candidates {path : PathName} (hp : path.Inside) {b : BuildFile}
    (hb : b ∈ candidates path) : b.path.Inside := by
  simp only [candidates, List.mem_cons, List.not_mem_nil, or_false] at hb
  rcases hb with rfl | rfl | rfl | rfl <;> exact hp.joinAll (by decide) (by decide)

end BuildFile

end BuildMigration
