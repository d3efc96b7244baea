import BuildMigration.Workspace.Sandbox
/-!
# Resolution in a tree that a write has changed

A migration writes files it has found: the build file, then the main source. Writing bytes to
a file of the tree changes that file and nothing else: no file or directory comes or goes, so
every path leads where it led before, and only what is read at that one file changes
(`resolve_put`). A path that stays in the tree (relative, with no `..`) leads, if anywhere, to
the place that its parts name (`resolve_of_inside`).

* `resolve_put`, `reached_of_put`: a path resolves after a write as before, with the new bytes
  at the written file;
* `read_put_of_ne`, `Names.read_put`: what a read gives after a write;
* `Names.put_read`, `isFile_put`: writing back what a file holds changes nothing, and no write
  changes what a probe for a regular file answers;
* `resolve_putHost`, `Names.read_putHost`: a write on the host, to anything but a directory,
  leaves every path into the tree and what it reads;
* `resolve_of_inside`: a path inside the tree reaches the place its parts name.
-/

namespace BuildMigration

namespace FileTree

/-- The canonical paths of the files of a tree. -/
def paths (t : FileTree) : List (List String) := t.files.map Prod.fst

theorem map_fst_putFile {files : List (List String × ByteArray)} {ps : List String}
    (h : ps ∈ files.map Prod.fst) (b : ByteArray) :
    (putFile files ps b).map Prod.fst = files.map Prod.fst := by
  induction files with
  | nil => simp at h
  | cons f fs ih =>
    simp only [putFile]
    split
    · rename_i hf
      simp [hf]
    · rename_i hf
      have h' : ps ∈ fs.map Prod.fst := by
        simp only [List.map_cons, List.mem_cons] at h
        exact h.resolve_left (Ne.symm hf)
      simp [ih h']

variable {t : FileTree} {ps : List String}

/-- A write to a file of the tree keeps its files and directories. -/
theorem paths_put (h : ps ∈ t.paths) (b : ByteArray) : (t.put ps b).paths = t.paths :=
  map_fst_putFile h b

theorem isDirectory_put (h : ps ∈ t.paths) (b : ByteArray) (qs : List String) :
    (t.put ps b).isDirectory qs = t.isDirectory qs := by
  have hp := paths_put h b
  simp only [paths, put] at hp
  have hany : ∀ (P : List String → Bool),
      (putFile t.files ps b).any (fun f => P f.1) = t.files.any (fun f => P f.1) := by
    intro P
    simpa [List.any_map, Function.comp_def] using congrArg (fun l => l.any P) hp
  simp only [isDirectory, put]
  rw [hany]

theorem entryAt_put (h : ps ∈ t.paths) (b : ByteArray) (pl : Place) :
    (t.put ps b).entryAt pl = if pl = .tree ps then some (.file b) else t.entryAt pl := by
  split
  · rename_i hpl
    subst hpl
    exact get?_put_self t ps b
  · rename_i hpl
    cases pl with
    | host qs => rfl
    | tree qs =>
      have hq : qs ≠ ps := fun e => hpl (e ▸ rfl)
      have hd := isDirectory_put h b qs
      simp only [put] at hd
      simp only [entryAt, get?, put, lookup_putFile_of_ne _ _ hq, hd]

end FileTree

/-- A resolution after the file at `ps` got the bytes `b`: the same place or the same failure,
    with the new bytes where the place is that file. -/
def Resolution.refill (ps : List String) (b : ByteArray) : Resolution → Resolution
  | .reached pl e => .reached pl (if pl = .tree ps then some (.file b) else e)
  | r => r

namespace FileTree

variable {t : FileTree} {ps : List String}

theorem lookup_of_mem {files : List (List String × ByteArray)} (h : ps ∈ files.map Prod.fst) :
    ∃ b, files.lookup ps = some b := by
  induction files with
  | nil => simp at h
  | cons f fs ih =>
    obtain ⟨qs, b⟩ := f
    by_cases hq : ps = qs
    · exact ⟨b, by simp [hq]⟩
    · have h' : ps ∈ fs.map Prod.fst := by
        simp only [List.map_cons, List.mem_cons] at h
        exact h.resolve_left hq
      obtain ⟨b', hb'⟩ := ih h'
      have hne : (ps == qs) = false := beq_eq_false_iff_ne.2 hq
      exact ⟨b', by simp [List.lookup_cons, hne, hb']⟩

theorem entryAt_tree_of_mem (h : ps ∈ t.paths) : ∃ b, t.entryAt (.tree ps) = some (.file b) := by
  obtain ⟨b, hb⟩ := lookup_of_mem h
  exact ⟨b, by simp [entryAt, get?, hb]⟩

/-- A write moves no path: each walk goes where it went, and meets the new bytes at the file
    that was written. -/
theorem walk_put (h : ps ∈ t.paths) (b : ByteArray) (here : Place) (xs : List String) :
    (t.put ps b).walk here xs = (t.walk here xs).refill ps b := by
  induction xs generalizing here with
  | nil => simp [walk, Resolution.refill, entryAt_put h]
  | cons x xs ih =>
    by_cases hh : here = .tree ps
    · -- the written file stands on the way: both walks are blocked there
      subst hh
      obtain ⟨b', hb'⟩ := entryAt_tree_of_mem h
      simp [walk, entryAt_put h, hb', Resolution.refill]
    · rw [walk, walk, entryAt_put h, if_neg hh]
      split
      · by_cases hx : x = ".."
        · simp only [hx, if_true, ih, host_put]
        · by_cases hl : maxNameBytes < x.utf8ByteSize
          · simp [hx, hl, Resolution.refill]
          · simp only [hx, hl, if_false, ih, host_put]
      · rfl
      · rfl

theorem resolve_put (h : ps ∈ t.paths) (b : ByteArray) (p : PathName) :
    (t.put ps b).resolve p = (t.resolve p).refill ps b := by
  unfold resolve
  split
  · rfl
  · split <;> exact walk_put h b _ _

theorem resolve_put_of_ne (h : ps ∈ t.paths) (b : ByteArray) {p : PathName}
    (hne : ∀ e, t.resolve p ≠ .reached (.tree ps) e) : (t.put ps b).resolve p = t.resolve p := by
  rw [resolve_put h]
  cases hres : t.resolve p with
  | reached pl e =>
    have hpl : pl ≠ .tree ps := fun hpl => hne e (hpl ▸ hres)
    simp [Resolution.refill, hpl]
  | _ => rfl

/-- A write moves no path: a place reached after it was reached before it. -/
theorem reached_of_put (h : ps ∈ t.paths) (b : ByteArray) {p : PathName} {pl : Place}
    {e : Option Entry} (hr : (t.put ps b).resolve p = .reached pl e) :
    ∃ e', t.resolve p = .reached pl e' := by
  rw [resolve_put h] at hr
  cases hr' : t.resolve p with
  | reached pl' e' =>
    rw [hr', Resolution.refill, Resolution.reached.injEq] at hr
    exact ⟨e', by rw [hr.1]⟩
  | missing | blocked | tooLong => simp [hr', Resolution.refill] at hr

/-- After a write, a read through a path that leads elsewhere gives what it gave before. -/
theorem read_put_of_ne (h : ps ∈ t.paths) (b : ByteArray) {p : PathName}
    (hne : ∀ e, t.resolve p ≠ .reached (.tree ps) e) : (t.put ps b).read p = t.read p := by
  simp only [read, resolve_put_of_ne h b hne]

/-- The entry that a walk reaches is what stands at its place. -/
theorem entry_of_walk {here pl : Place} {xs : List String} {e : Option Entry}
    (hw : t.walk here xs = .reached pl e) : e = t.entryAt pl := by
  induction xs generalizing here with
  | nil =>
    simp only [walk, Resolution.reached.injEq] at hw
    rw [← hw.1, hw.2]
  | cons x xs ih =>
    simp only [walk] at hw
    split at hw
    · split at hw
      · exact ih hw
      · split at hw
        · cases hw
        · exact ih hw
    · cases hw
    · cases hw

theorem entry_of_resolve {p : PathName} {pl : Place} {e : Option Entry}
    (hr : t.resolve p = .reached pl e) : e = t.entryAt pl := by
  unfold resolve at hr
  split at hr
  · cases hr
  · split at hr <;> exact entry_of_walk hr

/-- A write to a file of the tree changes no answer of a probe for a regular file. -/
theorem isFile_put (h : ps ∈ t.paths) (b : ByteArray) : (t.put ps b).isFile = t.isFile := by
  funext p
  simp only [isFile, resolve_put h]
  cases hr : t.resolve p with
  | reached pl e =>
    by_cases hpl : pl = .tree ps
    · -- the place is the file that was written: a regular file before and after
      subst hpl
      obtain ⟨b', hb'⟩ := entryAt_tree_of_mem h
      simp [Resolution.refill, entry_of_resolve hr, hb']
    · simp [Resolution.refill, hpl]
  | _ => rfl

/-- A walk along names none of which is `..` goes down the tree, to the place that the names
    add to where it started. -/
theorem walk_tree {qs xs : List String} (hx : ".." ∉ xs) {pl : Place} {e : Option Entry}
    (hw : t.walk (.tree qs) xs = .reached pl e) : pl = .tree (qs ++ xs) := by
  induction xs generalizing qs with
  | nil =>
    simp only [walk, Resolution.reached.injEq] at hw
    simp [← hw.1]
  | cons x xs ih =>
    rw [List.mem_cons, not_or] at hx
    simp only [walk] at hw
    split at hw
    · rw [if_neg (Ne.symm hx.1)] at hw
      split at hw
      · cases hw
      · simpa [Place.child] using ih hx.2 hw
    · cases hw
    · cases hw

theorem mem_of_lookup {files : List (List String × ByteArray)} {qs : List String} {b : ByteArray}
    (h : files.lookup qs = some b) : qs ∈ files.map Prod.fst := by
  induction files with
  | nil => cases h
  | cons f fs ih =>
    obtain ⟨rs, b'⟩ := f
    by_cases hq : qs = rs
    · simp [hq]
    · have hne : (qs == rs) = false := beq_eq_false_iff_ne.2 hq
      simp only [List.lookup_cons, hne] at h
      exact List.mem_cons_of_mem _ (ih h)

theorem mem_paths_of_get? {qs : List String} {b : ByteArray} (h : t.get? qs = some (.file b)) :
    qs ∈ t.paths := by
  simp only [get?] at h
  split at h
  · rename_i b' hb
    exact mem_of_lookup hb
  · split at h <;> cases h

end FileTree

namespace PathName

/-- A path that stays in the tree: it is relative and never goes up with `..`. -/
def Inside (p : PathName) : Prop := p.IsRelative ∧ ".." ∉ p.parts

instance (p : PathName) : Decidable p.Inside := inferInstanceAs (Decidable (_ ∧ _))

theorem anchorOf_of_head {cs : List Char} (h : cs.head? ≠ some '/') : anchorOf cs = .relative := by
  cases cs with
  | nil => rfl
  | cons c cs =>
    have hc : c ≠ '/' := fun e => h (by rw [e]; rfl)
    simp [anchorOf, hc]

/-- Each part of a path read from a text is made of characters of the text. -/
theorem mem_of_mem_parts {s x : String} (hx : x ∈ (ofString s).parts) {c : Char}
    (hc : c ∈ x.toList) : c ∈ s.toList := by
  obtain ⟨g, hg, rfl⟩ := List.mem_map.1 hx
  rw [String.toList_ofList] at hc
  exact Text.mem_of_mem_splitOn (List.mem_filter.1 hg).1 hc

/-- Joining relative texts appends their parts. -/
theorem joinAll_relative (p : PathName) {ss : List String}
    (h : ∀ s ∈ ss, (ofString s).anchor = .relative) :
    p.joinAll ss = { p with parts := p.parts ++ ss.flatMap fun s => (ofString s).parts } := by
  induction ss generalizing p with
  | nil => simp [joinAll]
  | cons s ss ih =>
    have hs := h s List.mem_cons_self
    show ss.foldl join (p.join s) = _
    rw [show ss.foldl join (p.join s) = (p.join s).joinAll ss from rfl,
      ih _ fun s' hs' => h s' (List.mem_cons_of_mem _ hs')]
    simp [join, hs]

/-- Joining relative texts with no part `..` onto a path inside the tree stays inside it. -/
theorem Inside.joinAll {p : PathName} (hp : p.Inside) {ss : List String}
    (hrel : ∀ s ∈ ss, (ofString s).anchor = .relative) (hdots : ∀ s ∈ ss, ".." ∉ (ofString s).parts) :
    (p.joinAll ss).Inside := by
  rw [joinAll_relative p hrel]
  refine ⟨hp.1, ?_⟩
  simp only [List.mem_append, List.mem_flatMap, not_or, not_exists, not_and]
  exact ⟨hp.2, fun s hs => hdots s hs⟩

theorem Inside.parent {p : PathName} (hp : p.Inside) : p.parent.Inside :=
  ⟨hp.1, fun h => hp.2 (List.dropLast_subset _ h)⟩

end PathName

namespace FileTree

variable {t : FileTree}

/-- A path inside the tree leads, if anywhere, to the place that its parts name. -/
theorem resolve_of_inside {p : PathName} (hp : p.Inside) {pl : Place} {e : Option Entry}
    (hr : t.resolve p = .reached pl e) : pl = .tree p.parts ∧ e = t.get? p.parts := by
  have hpl : pl = .tree p.parts := by
    unfold resolve at hr
    split at hr
    · cases hr
    · rw [show p.anchor = .relative from hp.1] at hr
      simpa using walk_tree hp.2 hr
  subst hpl
  exact ⟨rfl, entry_of_resolve hr⟩

theorem get?_ne_special (qs : List String) (b : ByteArray) : t.get? qs ≠ some (.special b) := by
  simp only [get?]
  split
  · simp
  · split <;> simp

/-- The path names the file of the tree at `ps`: it can be handed to the system, and it leads
    there. -/
def Names (t : FileTree) (p : PathName) (ps : List String) : Prop :=
  p.holdsNul = false ∧ ∃ b, t.resolve p = .reached (.tree ps) (some (.file b))

namespace Names

variable {p : PathName} {ps qs : List String}

theorem mem_paths (h : t.Names p ps) : ps ∈ t.paths := by
  obtain ⟨-, b, hr⟩ := h
  exact mem_paths_of_get? (entry_of_resolve hr).symm

theorem isFile (h : t.Names p ps) : t.isFile p = .ok true := by
  obtain ⟨hn, b, hr⟩ := h
  simp [FileTree.isFile, hn, hr]

theorem write (h : t.Names p ps) (b : ByteArray) : t.write p b = .ok (t.put ps b) := by
  obtain ⟨hn, b', hr⟩ := h
  simp [FileTree.write, hn, hr]

/-- After a write through the path, the path names the same file, which reads as written. -/
theorem read_put (h : t.Names p ps) (b : ByteArray) :
    (t.put ps b).Names p ps ∧ (t.put ps b).read p = .ok b := by
  obtain ⟨hn, b', hr⟩ := h
  have hr' : (t.put ps b).resolve p = .reached (.tree ps) (some (.file b)) := by
    rw [resolve_put (mem_paths ⟨hn, b', hr⟩), hr]
    simp [Resolution.refill]
  exact ⟨⟨hn, b, hr'⟩, by simp [read, hn, hr']⟩

/-- A write to another file leaves the path naming its file. -/
theorem put_of_ne (h : t.Names p ps) (hq : qs ∈ t.paths) (hne : ps ≠ qs) (b : ByteArray) :
    (t.put qs b).Names p ps := by
  obtain ⟨hn, b', hr⟩ := h
  refine ⟨hn, b', ?_⟩
  rw [resolve_put hq, hr]
  simp [Resolution.refill, hne]

/-- A write to another file leaves what the path reads. -/
theorem read_put_of_ne (h : t.Names p ps) (hq : qs ∈ t.paths) (hne : ps ≠ qs) (b : ByteArray) :
    (t.put qs b).read p = t.read p := by
  obtain ⟨-, b', hr⟩ := h
  refine FileTree.read_put_of_ne hq b fun e he => hne ?_
  rw [hr] at he
  exact Place.tree.inj (Resolution.reached.inj he).1

/-- A path that names a file after a write named a file before it, at the same place. -/
theorem of_put (hq : qs ∈ t.paths) {b : ByteArray} (h : (t.put qs b).Names p ps) :
    t.Names p ps := by
  obtain ⟨hn, b', hr⟩ := h
  obtain ⟨e', hr'⟩ := reached_of_put hq b hr
  have hps : ps ∈ t.paths := by
    rw [← paths_put hq b]
    exact mem_paths ⟨hn, b', hr⟩
  obtain ⟨b'', hb⟩ := entryAt_tree_of_mem hps
  exact ⟨hn, b'', by rw [hr', entry_of_resolve hr', hb]⟩

/-- Writing back the bytes that the path reads changes nothing. -/
theorem put_read (h : t.Names p ps) {b : ByteArray} (hr : t.read p = .ok b) : t.put ps b = t := by
  obtain ⟨hn, b', hres⟩ := h
  have hb : t.read p = .ok b' := by simp [read, hn, hres]
  rw [hr, Except.ok.injEq] at hb
  subst hb
  exact put_of_get? (entry_of_resolve hres).symm

end Names

/-- A read that gives bytes, through a path that leads only into the tree, names a file. -/
theorem names_of_read {p : PathName} {b : ByteArray} (h : t.read p = .ok b)
    (hin : ∀ pl e, t.resolve p = .reached pl e → ∃ qs, pl = .tree qs) :
    ∃ qs, t.Names p qs ∧ t.get? qs = some (.file b) := by
  simp only [read] at h
  split at h
  · cases h
  · rename_i hn
    split at h
    · rename_i pl b' hr
      obtain ⟨qs, rfl⟩ := hin _ _ hr
      cases h
      exact ⟨qs, ⟨by simpa using hn, b, hr⟩, (entry_of_resolve hr).symm⟩
    · rename_i pl b' hr
      obtain ⟨qs, rfl⟩ := hin _ _ hr
      exact absurd (entry_of_resolve hr).symm (get?_ne_special qs b')
    all_goals cases h

end FileTree

end BuildMigration
