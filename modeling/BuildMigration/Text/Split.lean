/-!
# Splitting and joining on a separator

A text is cut into the *pieces* between the occurrences of a separator character, and
pieces are joined back with the separator between them. Empty pieces are kept: cutting
`"a..b"` on `.` gives `"a"`, `""` and `"b"`, and the empty text is one empty piece. So
there is always one piece more than there are separators.

* `joinWith_splitOn`: joining the pieces gives back the text.
* `splitOn_append_sep`: the text after the last separator is the last piece.
* `splitOn_joinWith_append`: pieces joined and followed by a separator are cut back first.
* `sep_not_mem_of_mem_splitOn`, `mem_of_mem_splitOn`: a piece holds no separator, and only
  characters of the text.
-/

namespace BuildMigration.Text

/-- The pieces of `cs` between the occurrences of `sep`. -/
def splitOn (sep : Char) : List Char → List (List Char)
  | [] => [[]]
  | c :: cs =>
    if c = sep then [] :: splitOn sep cs
    else match splitOn sep cs with
      | g :: gs => (c :: g) :: gs
      | [] => [[c]]

/-- The pieces joined, with `sep` between each two. -/
def joinWith (sep : Char) : List (List Char) → List Char
  | [] => []
  | [g] => g
  | g :: gs => g ++ sep :: joinWith sep gs

theorem splitOn_ne_nil (sep : Char) (cs : List Char) : splitOn sep cs ≠ [] := by
  induction cs with
  | nil => simp [splitOn]
  | cons c cs ih =>
    simp only [splitOn]
    split
    · simp
    · split <;> simp

theorem joinWith_cons_cons (sep : Char) (g h : List Char) (gs : List (List Char)) :
    joinWith sep (g :: h :: gs) = g ++ sep :: joinWith sep (h :: gs) := rfl

theorem joinWith_splitOn (sep : Char) (cs : List Char) : joinWith sep (splitOn sep cs) = cs := by
  induction cs with
  | nil => rfl
  | cons c cs ih =>
    simp only [splitOn]
    split
    · rename_i hc
      subst hc
      cases h : splitOn c cs with
      | nil => exact absurd h (splitOn_ne_nil _ _)
      | cons g gs => rw [h] at ih; simp [joinWith_cons_cons, ih]
    · split
      · rename_i g gs h
        rw [h] at ih
        cases gs with
        | nil => simp_all [joinWith]
        | cons g' gs => simp_all [joinWith_cons_cons]
      · rename_i h
        exact absurd h (splitOn_ne_nil _ _)

theorem splitOn_of_not_mem {sep : Char} {cs : List Char} (h : sep ∉ cs) : splitOn sep cs = [cs] := by
  induction cs with
  | nil => rfl
  | cons c cs ih =>
    rw [List.mem_cons, not_or] at h
    simp [splitOn, Ne.symm h.1, ih h.2]

/-- The text after the last separator is the last piece. -/
theorem splitOn_append_sep {sep : Char} (cs : List Char) {b : List Char} (hb : sep ∉ b) :
    splitOn sep (cs ++ sep :: b) = splitOn sep cs ++ [b] := by
  induction cs with
  | nil => simp [splitOn, splitOn_of_not_mem hb]
  | cons c cs ih =>
    by_cases hc : c = sep
    · simp [splitOn, hc, ih]
    · obtain ⟨g, gs, hg⟩ := List.exists_cons_of_ne_nil (splitOn_ne_nil sep cs)
      simp [splitOn, hc, ih, hg]

/-- A piece without the separator, then the separator: the piece comes first. -/
theorem splitOn_append_cons {sep : Char} {g : List Char} (hg : sep ∉ g) (rest : List Char) :
    splitOn sep (g ++ sep :: rest) = g :: splitOn sep rest := by
  induction g with
  | nil => simp [splitOn]
  | cons c g ih =>
    rw [List.mem_cons, not_or] at hg
    simp [splitOn, Ne.symm hg.1, ih hg.2]

/-- Pieces joined, then the separator: the pieces come first. -/
theorem splitOn_joinWith_append {sep : Char} {gs : List (List Char)} (hne : gs ≠ [])
    (hgs : ∀ g ∈ gs, sep ∉ g) (rest : List Char) :
    splitOn sep (joinWith sep gs ++ sep :: rest) = gs ++ splitOn sep rest := by
  induction gs with
  | nil => exact absurd rfl hne
  | cons g gs ih =>
    cases gs with
    | nil => simpa [joinWith] using splitOn_append_cons (hgs g List.mem_cons_self) rest
    | cons h gs =>
      rw [joinWith_cons_cons, List.append_assoc, List.cons_append,
        splitOn_append_cons (hgs g List.mem_cons_self),
        ih (List.cons_ne_nil _ _) fun k hk => hgs k (List.mem_cons_of_mem _ hk)]
      rfl

/-- A character that stands in no piece and is not the separator stands nowhere in the join. -/
theorem not_mem_joinWith {sep c : Char} (hc : c ≠ sep) {gs : List (List Char)}
    (hgs : ∀ g ∈ gs, c ∉ g) : c ∉ joinWith sep gs := by
  induction gs with
  | nil => simp [joinWith]
  | cons g gs ih =>
    cases gs with
    | nil => simpa [joinWith] using hgs g List.mem_cons_self
    | cons h gs =>
      rw [joinWith_cons_cons]
      simp only [List.mem_append, List.mem_cons, not_or]
      exact ⟨hgs g List.mem_cons_self, hc, ih fun k hk => hgs k (List.mem_cons_of_mem _ hk)⟩

/-- A piece holds no separator, and only characters of the text. -/
theorem mem_splitOn_facts {sep : Char} {cs g : List Char} (h : g ∈ splitOn sep cs) :
    sep ∉ g ∧ ∀ c ∈ g, c ∈ cs := by
  induction cs generalizing g with
  | nil =>
    simp only [splitOn, List.mem_singleton] at h
    simp [h]
  | cons c cs ih =>
    simp only [splitOn] at h
    split at h
    · rcases List.mem_cons.1 h with rfl | hg
      · simp
      · exact ⟨(ih hg).1, fun d hd => List.mem_cons_of_mem _ ((ih hg).2 d hd)⟩
    · rename_i hc
      split at h
      · rename_i g0 gs hsplit
        rcases List.mem_cons.1 h with rfl | hg
        · have h0 := ih (hsplit ▸ List.mem_cons_self : g0 ∈ splitOn sep cs)
          refine ⟨?_, ?_⟩
          · rw [List.mem_cons, not_or]
            exact ⟨Ne.symm hc, h0.1⟩
          · intro d hd
            rcases List.mem_cons.1 hd with rfl | hd
            · exact List.mem_cons_self
            · exact List.mem_cons_of_mem _ (h0.2 d hd)
        · have h1 := ih (hsplit ▸ List.mem_cons_of_mem _ hg : g ∈ splitOn sep cs)
          exact ⟨h1.1, fun d hd => List.mem_cons_of_mem _ (h1.2 d hd)⟩
      · rename_i hsplit
        exact absurd hsplit (splitOn_ne_nil _ _)

theorem sep_not_mem_of_mem_splitOn {sep : Char} {cs g : List Char} (h : g ∈ splitOn sep cs) :
    sep ∉ g :=
  (mem_splitOn_facts h).1

theorem mem_of_mem_splitOn {sep : Char} {cs g : List Char} (h : g ∈ splitOn sep cs) {c : Char}
    (hc : c ∈ g) : c ∈ cs :=
  (mem_splitOn_facts h).2 c hc

end BuildMigration.Text
