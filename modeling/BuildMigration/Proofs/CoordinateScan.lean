import BuildMigration.Proofs.LeftoverCounts
/-!
# The coordinate scan

The Scala 2 library coordinates of a text can be read off by a scan from left to right. At a
position it looks for a quote followed by `org.scala-lang:scala-library:`, takes the longest
run after that of characters that are neither quotes nor line feeds, and accepts when the
character after the run is the opening quote. It then resumes after the closing quote, and
otherwise at the next position (`coordinateScan`).

The coordinate pattern accepts at the front of a text exactly what this scan accepts there
(`coordinateAt_eq_acceptedLength?`): a shorter run could only be followed by a run character,
never by the quote. So the matches that a search for all coordinates reports
(`Pattern.spansFrom`, the matches that `count` counts) are the scan's, and a replacement puts
its text in the place of the first of them. The text a replacement puts in opens with the
quoted lead of the Scala 3 library, which no coordinate opens with: a replacement that
succeeds keeps the text exactly when it holds no coordinate.

* `Pattern.length_spansFrom`, `Pattern.head?_spansFrom`: a search for all matches reports
  as many as a count counts, the first being the leftmost match;
* `coordinateAt_eq_acceptedLength?`: the pattern and the scan accept the same coordinate;
* `spansFrom_coordinate_drop`: the coordinates a search reports are those the scan accepts;
* `Template.pieces_append_of_no_backslash`: a template that opens with plain characters
  inserts them first;
* `coordinate_matches_scan`: the coordinates are those of the scan, and a replacement puts a
  Scala 3 coordinate in the place of the first of them.
-/

namespace BuildMigration

namespace Text.Pattern

variable (p : Pattern)

/-- The matches that a search from left to right finds, each search resuming after the match
    before, in a text whose first character stands at offset `i`: each by the offset where it
    starts and the offset after its end. These are the matches that a search for all of them
    reports, and those that `count` counts. -/
def spansFrom (i : Nat) (s : List Char) : List (Nat × Nat) :=
  match s with
  | [] => []
  | c :: cs =>
    match h : p.matchAt (c :: cs) with
    | some (m, r) =>
      have : r.length < cs.length + 1 := p.rest_lt h
      (i, i + m.length) :: spansFrom (i + m.length) r
    | none => spansFrom (i + 1) cs
termination_by s.length

variable {p}

@[simp] theorem spansFrom_nil (i : Nat) : p.spansFrom i [] = [] := by
  rw [spansFrom]

theorem spansFrom_of_none {i : Nat} {c : Char} {cs : List Char} (h : p.matchAt (c :: cs) = none) :
    p.spansFrom i (c :: cs) = p.spansFrom (i + 1) cs := by
  rw [spansFrom]
  split
  · rename_i m r hm
    rw [h] at hm
    cases hm
  · rfl

theorem spansFrom_of_matchAt {i : Nat} {s m r : List Char} (h : p.matchAt s = some (m, r)) :
    p.spansFrom i s = (i, i + m.length) :: p.spansFrom (i + m.length) r := by
  cases s with
  | nil =>
    rw [matchAt_nil] at h
    cases h
  | cons c cs =>
    rw [spansFrom]
    split
    · rename_i m' r' hm
      rw [h] at hm
      cases hm
      rfl
    · rename_i hn
      rw [h] at hn
      cases hn

/-- A search for all matches reports as many as a count counts. -/
theorem length_spansFrom (i : Nat) (s : List Char) : (p.spansFrom i s).length = p.count s := by
  fun_induction p.spansFrom i s with
  | case1 i => simp [count]
  | case2 i c cs m r h _ ih => rw [List.length_cons, ih, count_of_matchAt h]
  | case3 i c cs h ih => rw [ih, count_cons_of_none h]

/-- The first match that a search for all of them reports is the leftmost match. -/
theorem head?_spansFrom (i : Nat) (s : List Char) :
    (p.spansFrom i s).head? =
      (p.find? s).map fun f => (i + f.before.length, i + f.before.length + f.matched.length) := by
  induction s generalizing i with
  | nil => simp [find?]
  | cons c cs ih =>
    cases h : p.matchAt (c :: cs) with
    | none =>
      rw [spansFrom_of_none h, ih, find?, h, Option.map_map]
      congr 1
      funext f
      simp only [Function.comp_apply, List.length_cons, Prod.mk.injEq]
      omega
    | some mr =>
      obtain ⟨m, r⟩ := mr
      rw [spansFrom_of_matchAt h, find?, h]
      simp

end Text.Pattern

namespace Text

/-- The character that stops the longest run at the front of a list stands just after it. -/
theorem getElem?_length_takeWhile (p : Char → Bool) (l : List Char) :
    l[(l.takeWhile p).length]? = (l.dropWhile p).head? := by
  calc l[(l.takeWhile p).length]? = (l.takeWhile p ++ l.dropWhile p)[(l.takeWhile p).length]? := by
        rw [List.takeWhile_append_dropWhile]
    _ = (l.dropWhile p).head? := by
        rw [List.getElem?_append_right (Nat.le_refl _), Nat.sub_self, List.head?_eq_getElem?]

theorem stripPrefix?_eq_none_iff {p s : List Char} : stripPrefix? p s = none ↔ s.take p.length ≠ p := by
  constructor
  · intro h ht
    obtain ⟨r, rfl⟩ := List.prefix_iff_eq_take.2 ht.symm
    rw [stripPrefix?_eq_some_iff.2 rfl] at h
    cases h
  · intro ht
    cases h : stripPrefix? p s with
    | none => rfl
    | some r => exact absurd (by rw [eq_append_of_stripPrefix? h, List.take_left' rfl]) ht

end Text

namespace Template

/-- A template that opens with characters other than backslashes inserts them first. -/
theorem pieces_append_of_no_backslash {source s w : List Char} {groups endPos pos : Nat}
    {tmpl : Template} (h : '\\' ∉ s)
    (hp : pieces source groups endPos (tokenize (s ++ w) pos) = .ok tmpl) :
    ∃ rest, tmpl = literal s ++ rest := by
  induction s generalizing pos tmpl with
  | nil => exact ⟨tmpl, rfl⟩
  | cons c s ih =>
    have hs : '\\' ∉ s := fun hm => h (List.mem_cons_of_mem _ hm)
    rw [List.cons_append, tokenize_cons_of_ne (fun e => h (e ▸ List.mem_cons_self)), pieces] at hp
    -- the character is read as itself, unless the token after it is a dangling backslash
    cases hl : lookAt source (tokenize (s ++ w) (pos + 1)) with
    | error e => simp [item, hl, bind, Except.bind] at hp
    | ok u =>
      rw [item_plain hl] at hp
      cases hr : pieces source groups endPos (tokenize (s ++ w) (pos + 1)) with
      | error e => simp [hr] at hp
      | ok ps =>
        simp only [hr, Except.ok.injEq] at hp
        obtain ⟨rest, rfl⟩ := ih hs hr
        exact ⟨rest, by rw [← hp]; rfl⟩

theorem expand_append (a b : Template) (group : Nat → List Char) :
    expand (a ++ b) group = expand a group ++ expand b group :=
  List.flatMap_append

end Template

namespace BuildText

open Text

/-! ## The scan -/

/-- The length of the coordinate that the scan accepts at the front of a text: the text opens
    with a quote `q` and the lead, then comes the longest run of characters that are neither
    quotes nor line feeds, and the character after the run is `q`. -/
def acceptedLength? : List Char → Option Nat
  | [] => none
  | q :: s =>
    let rest := s.drop coordinateLead.length
    let run := rest.takeWhile inCoordinateRun
    if isQuote q ∧ s.take coordinateLead.length = coordinateLead ∧ rest[run.length]? = some q then
      some (coordinateLead.length + run.length + 2)
    else none

/-- An accepted coordinate holds a character at least, and lies within the text. -/
theorem acceptedLength?_bounds {u : List Char} {n : Nat} (h : acceptedLength? u = some n) :
    0 < n ∧ n ≤ u.length := by
  cases u with
  | nil => cases h
  | cons q s =>
    simp only [acceptedLength?] at h
    split at h
    · rename_i hc
      obtain ⟨-, -, hq⟩ := hc
      cases h
      -- the closing quote stands within the text
      have hlt := (List.getElem?_eq_some_iff.1 hq).1
      simp only [List.length_drop, List.length_cons] at hlt ⊢
      omega
    · cases h

/-- The coordinates that the scan accepts from position `i` of `t` on, each by the offset of its
    opening quote and the offset after its closing quote: on acceptance the scan resumes after
    the closing quote, otherwise at the next position. -/
def coordinateScan (t : List Char) (i : Nat) : List (Nat × Nat) :=
  if i < t.length then
    match h : acceptedLength? (t.drop i) with
    | some n =>
      have : 0 < n := (acceptedLength?_bounds h).1
      (i, i + n) :: coordinateScan t (i + n)
    | none => coordinateScan t (i + 1)
  else []
termination_by t.length - i

/-! ## The pattern accepts what the scan accepts -/

/-- The coordinate at the front of a text is the one that the scan accepts there. -/
theorem coordinateAt_eq_acceptedLength? (u : List Char) :
    coordinateAt u = (acceptedLength? u).map fun n => (u.take n, u.drop n) := by
  cases u with
  | nil => rfl
  | cons q s =>
    by_cases hq : isQuote q
    swap
    · simp [coordinateAt, acceptedLength?, hq]
    by_cases hlead : s.take coordinateLead.length = coordinateLead
    swap
    · simp [coordinateAt, acceptedLength?, hq, hlead, stripPrefix?_eq_none_iff.2 hlead]
    -- the lead is there: what follows it is the run and the character that stops it
    obtain ⟨rest, rfl⟩ := List.prefix_iff_eq_take.2 hlead.symm
    have hstrip : stripPrefix? coordinateLead (coordinateLead ++ rest) = some rest :=
      stripPrefix?_eq_some_iff.2 rfl
    have hrest : (coordinateLead ++ rest).drop coordinateLead.length = rest := List.drop_left' rfl
    have hstop := getElem?_length_takeWhile inCoordinateRun rest
    have hsplit := List.takeWhile_append_dropWhile (p := inCoordinateRun) (l := rest)
    simp only [coordinateAt, acceptedLength?, hq, if_true, hstrip, hrest, hlead, true_and]
    change _ = Option.map _ (if rest[(rest.takeWhile inCoordinateRun).length]? = some q then _ else _)
    rw [hstop]
    cases hd : rest.dropWhile inCoordinateRun with
    | nil => simp
    | cons c after =>
      by_cases hc : c = q
      · subst hc
        rw [hd] at hsplit
        simp only [List.head?_cons, if_true, Option.map_some, Option.some.injEq]
        -- the accepted text is the quote, the lead, the run and the quote
        have hw : c :: (coordinateLead ++ rest) =
            (c :: (coordinateLead ++ (rest.takeWhile inCoordinateRun ++ [c]))) ++ after := by
          conv_lhs => rw [← hsplit]
          simp
        have hlen : (c :: (coordinateLead ++ (rest.takeWhile inCoordinateRun ++ [c]))).length =
            coordinateLead.length + (rest.takeWhile inCoordinateRun).length + 2 := by
          simp only [List.length_cons, List.length_append, List.length_nil]
          omega
        rw [hw, ← hlen, List.take_left' rfl, List.drop_left' rfl]
        simp
      · simp [hc]

/-- The coordinates that a search for all of them reports are those that the scan accepts. -/
theorem spansFrom_coordinate_drop (t : List Char) (i : Nat) :
    coordinate.spansFrom i (t.drop i) = coordinateScan t i := by
  fun_induction coordinateScan t i with
  | case1 i hi n h _ ih =>
    -- the scan accepts a coordinate of `n` characters, and resumes after it
    have hm : coordinate.matchAt (t.drop i) = some ((t.drop i).take n, (t.drop i).drop n) := by
      rw [coordinate_matchAt, coordinateAt_eq_acceptedLength?, h]
      rfl
    have hlen : ((t.drop i).take n).length = n :=
      List.length_take_of_le (acceptedLength?_bounds h).2
    rw [Pattern.spansFrom_of_matchAt hm, hlen, List.drop_drop, ih]
  | case2 i hi h ih =>
    -- nothing is accepted here: both move on by one character
    rw [List.drop_eq_getElem_cons hi, Pattern.spansFrom_of_none, ih]
    rw [coordinate_matchAt, ← List.drop_eq_getElem_cons hi, coordinateAt_eq_acceptedLength?, h]
    rfl
  | case3 i hi =>
    rw [List.drop_eq_nil_of_le (Nat.le_of_not_lt hi), Pattern.spansFrom_nil]

/-! ## Replacing the first coordinate -/

/-- A coordinate never opens with the quoted lead of the Scala 3 library: its lead reads
    `scala-library` where that one reads `scala3-library_3`. -/
theorem coordinate_ne_scala3Lead {m a y : List Char} (hm : coordinateAt (m ++ a) = some (m, a)) :
    m ≠ scala3Lead ++ y := by
  intro he
  obtain ⟨q, run, hq, hrun, rfl, -⟩ := coordinateAt_eq_some_iff.1 hm
  have hx := coordinateAt_quoted hq hrun []
  have hT : coordinateAt (scala3Lead ++ y) = none := rfl
  rw [← he] at hT
  rw [hT] at hx
  cases hx

/-- A replacement of the coordinate that succeeds puts a text in the place of the first
    coordinate that opens with the quoted lead of the Scala 3 library. -/
theorem replaceCoordinate_eq_ok {t v r : List Char} (h : replaceCoordinate t v = .ok r) :
    ∃ g : List Char → List Char, r = coordinate.replaceFirst (fun m => scala3Lead ++ g m) t := by
  unfold replaceCoordinate at h
  cases hp : Template.parse 1 (coordinateTemplate v) with
  | error e =>
    rw [hp] at h
    cases h
  | ok tmpl =>
    rw [hp] at h
    have hno : '\\' ∉ scala3Lead := by decide
    obtain ⟨rest, rfl⟩ := Template.pieces_append_of_no_backslash (w := v ++ ['"']) hno
      (by rw [← List.append_assoc]; exact hp)
    refine ⟨fun m => rest.expand fun n => if n = 0 then m else m.take 1, ?_⟩
    cases h
    simp only [Template.expand_append, Template.expand_literal]

/-- The Scala 2 library coordinates of a text are those of the scan: the matches that a search
    for all of them reports are the scan's, and a count counts as many. A replacement that
    succeeds, whatever the version, puts a Scala 3 coordinate in the place of the first of them
    and keeps the rest of the text; so it gives the text back exactly when there is none. -/
theorem coordinate_matches_scan (t : List Char) :
    coordinate.spansFrom 0 t = coordinateScan t 0 ∧
      coordinate.count t = (coordinateScan t 0).length ∧
      ∀ v r, replaceCoordinate t v = .ok r →
        (r = t ↔ coordinateScan t 0 = []) ∧
          ∀ i e, (coordinateScan t 0).head? = some (i, e) →
            ∃ y, r = t.take i ++ (scala3Lead ++ y) ++ t.drop e := by
  have hspans : coordinate.spansFrom 0 t = coordinateScan t 0 := spansFrom_coordinate_drop t 0
  refine ⟨hspans, by rw [← hspans, Pattern.length_spansFrom], fun v r hr => ?_⟩
  obtain ⟨g, rfl⟩ := replaceCoordinate_eq_ok hr
  have hhead := Pattern.head?_spansFrom (p := coordinate) 0 t
  rw [hspans] at hhead
  cases hf : coordinate.find? t with
  | none =>
    rw [hf, Option.map_none, List.head?_eq_none_iff] at hhead
    rw [coordinate.replaceFirst_of_find?_none _ hf]
    exact ⟨iff_of_true rfl hhead, fun i e he => by rw [hhead] at he; cases he⟩
  | some f =>
    obtain ⟨ht, hm, -⟩ := Pattern.find?_eq_some_iff.1 hf
    rw [Pattern.replaceFirst_of_find? hf]
    rw [hf, Option.map_some] at hhead
    refine ⟨⟨fun he => ?_, fun hnil => by rw [hnil] at hhead; cases hhead⟩, fun i e he => ?_⟩
    · -- the new coordinate would have to be the old one
      conv_rhs at he => rw [ht]
      rw [List.append_assoc] at he
      have hsame := List.append_cancel_right (List.append_cancel_left he)
      exact (coordinate_ne_scala3Lead hm hsame.symm).elim
    · simp only [hhead, Option.some.injEq, Prod.mk.injEq, Nat.zero_add] at he
      obtain ⟨rfl, rfl⟩ := he
      -- the first coordinate is what lies between the text before it and the text after it
      have htake : t.take f.before.length = f.before := by rw [ht, List.take_left' rfl]
      have hdrop : t.drop (f.before.length + f.matched.length) = f.after := by
        rw [ht, ← List.append_assoc, List.drop_left' List.length_append]
      exact ⟨g f.matched, by rw [htake, hdrop]⟩

end BuildText

end BuildMigration
