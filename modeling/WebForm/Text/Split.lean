/-!
# Splitting text at a character

`split sep` cuts a text at every occurrence of `sep`; `join sep` writes the pieces back with `sep`
between them. Splitting at the first or the last occurrence gives two sides.

Results:
* `join_split`: joining the pieces gives the text back.
* `mem_join`, `exists_mem_split`: every other character stands in a piece.
* `split_append_sep`: a separator between two texts separates their pieces.
* `split_join`: splitting a join gives the pieces back when there are some and none holds `sep`.
* `length_split`: one piece more than there are occurrences.
* `splitFirst_eq_some_iff`, `splitLast_eq_some_iff`: the two sides of the first and the last
  occurrence; `splitFirst_eq_none_iff`, `splitLast_eq_none_iff`: there are none without one.
-/

namespace WebForm.Text

/-! ## Every occurrence -/

/-- The pieces between the occurrences of `sep`: one more than there are occurrences. -/
def split (sep : Char) : List Char → List (List Char)
  | [] => [[]]
  | c :: cs =>
    if c = sep then [] :: split sep cs
    else match split sep cs with
      | [] => [[c]]
      | piece :: pieces => (c :: piece) :: pieces

/-- The pieces with `sep` between them. -/
def join (sep : Char) : List (List Char) → List Char
  | [] => []
  | [piece] => piece
  | piece :: pieces => piece ++ sep :: join sep pieces

/-- The pieces of a string. -/
def splitString (sep : Char) (s : String) : List String :=
  (split sep s.toList).map String.ofList

theorem split_ne_nil (sep : Char) (cs : List Char) : split sep cs ≠ [] := by
  cases cs with
  | nil => simp [split]
  | cons c cs =>
    unfold split
    split
    · simp
    · split <;> simp

theorem join_cons_of_ne_nil (sep : Char) (piece : List Char) {pieces : List (List Char)}
    (h : pieces ≠ []) : join sep (piece :: pieces) = piece ++ sep :: join sep pieces := by
  cases pieces with
  | nil => exact absurd rfl h
  | cons => rfl

/-- Joining the pieces gives the text back. -/
theorem join_split (sep : Char) (cs : List Char) : join sep (split sep cs) = cs := by
  induction cs with
  | nil => rfl
  | cons c cs ih =>
    unfold split
    split
    · rename_i h
      rw [join_cons_of_ne_nil sep [] (split_ne_nil sep cs), ih, h]
      rfl
    · split
      · rename_i h
        exact absurd h (split_ne_nil sep cs)
      · rename_i piece pieces h
        rw [h] at ih
        cases pieces with
        | nil => simpa [join] using ih
        | cons => simpa [join] using ih

/-- The characters of a join are the separator and those of the pieces. -/
theorem mem_join {sep c : Char} {pieces : List (List Char)} (h : c ∈ join sep pieces) :
    c = sep ∨ ∃ piece ∈ pieces, c ∈ piece := by
  induction pieces with
  | nil => exact absurd h List.not_mem_nil
  | cons piece pieces ih =>
    by_cases hnil : pieces = []
    · subst hnil
      exact Or.inr ⟨piece, List.mem_cons_self, h⟩
    · rw [join_cons_of_ne_nil sep piece hnil] at h
      rcases List.mem_append.mp h with h | h
      · exact Or.inr ⟨piece, List.mem_cons_self, h⟩
      · rcases List.mem_cons.mp h with h | h
        · exact Or.inl h
        · obtain hsep | ⟨p, hp, hc⟩ := ih h
          · exact Or.inl hsep
          · exact Or.inr ⟨p, List.mem_cons_of_mem _ hp, hc⟩

theorem exists_mem_split {sep c : Char} {cs : List Char} (h : c ∈ cs) (hsep : c ≠ sep) :
    ∃ piece ∈ split sep cs, c ∈ piece :=
  (mem_join ((join_split sep cs).symm ▸ h)).resolve_left hsep

theorem split_of_not_mem {sep : Char} {cs : List Char} (h : sep ∉ cs) : split sep cs = [cs] := by
  induction cs with
  | nil => rfl
  | cons c cs ih =>
    simp only [List.mem_cons, not_or] at h
    have hc : ¬ c = sep := fun e => h.1 e.symm
    simp [split, hc, ih h.2]

/-- A separator between two texts separates their pieces. -/
theorem split_append_sep (sep : Char) (xs ys : List Char) :
    split sep (xs ++ sep :: ys) = split sep xs ++ split sep ys := by
  induction xs with
  | nil => simp [split]
  | cons c cs ih =>
    by_cases hc : c = sep
    · simp [split, hc, ih]
    · have hne := split_ne_nil sep cs
      simp only [List.cons_append, split, hc, if_false, ih]
      cases hs : split sep cs with
      | nil => exact absurd hs hne
      | cons piece pieces => rfl

theorem split_append_cons {sep : Char} {piece : List Char} (h : sep ∉ piece) (cs : List Char) :
    split sep (piece ++ sep :: cs) = piece :: split sep cs := by
  rw [split_append_sep, split_of_not_mem h, List.singleton_append]

/-- Splitting a join gives the pieces back when there are some and none holds the separator. -/
theorem split_join {sep : Char} {pieces : List (List Char)} (hne : pieces ≠ [])
    (h : ∀ piece ∈ pieces, sep ∉ piece) : split sep (join sep pieces) = pieces := by
  induction pieces with
  | nil => exact absurd rfl hne
  | cons piece pieces ih =>
    cases pieces with
    | nil => exact split_of_not_mem (h piece (by simp))
    | cons next pieces =>
      rw [join_cons_of_ne_nil sep piece (by simp),
        split_append_cons (h piece (by simp)), ih (by simp) fun p hp => h p (by simp [hp])]

/-- No piece holds the separator. -/
theorem not_mem_of_mem_split {sep : Char} {cs piece : List Char} (h : piece ∈ split sep cs) :
    sep ∉ piece := by
  induction cs generalizing piece with
  | nil => simp_all [split]
  | cons c cs ih =>
    unfold split at h
    split at h
    · rcases List.mem_cons.mp h with rfl | h
      · simp
      · exact ih h
    · rename_i hc
      split at h
      · rename_i hs
        exact absurd hs (split_ne_nil sep cs)
      · rename_i first rest hs
        rcases List.mem_cons.mp h with rfl | h
        · have : sep ∉ first := ih (by simp [hs])
          simp only [List.mem_cons, not_or]
          exact ⟨fun e => hc e.symm, this⟩
        · exact ih (by simp [hs, h])

/-- There is one piece more than there are occurrences. -/
theorem length_split (sep : Char) (cs : List Char) :
    (split sep cs).length = cs.count sep + 1 := by
  induction cs with
  | nil => rfl
  | cons c cs ih =>
    unfold split
    split
    · rename_i h
      rw [h, List.count_cons_self, List.length_cons, ih]
    · rename_i h
      rw [List.count_cons_of_ne (by simpa using h), ← ih]
      split
      · rename_i hs
        exact absurd hs (split_ne_nil sep cs)
      · rename_i hs
        rw [hs, List.length_cons, List.length_cons]

theorem splitString_of_not_mem {sep : Char} {s : String} (h : sep ∉ s.toList) : splitString sep s = [s] := by
  rw [splitString, split_of_not_mem h, List.map_singleton, String.ofList_toList]

/-- Strings with the same pieces are the same. -/
theorem splitString_inj {sep : Char} {s t : String} :
    splitString sep s = splitString sep t ↔ s = t := by
  refine ⟨fun h => ?_, congrArg _⟩
  have hsplit : split sep s.toList = split sep t.toList :=
    (List.map_inj_right fun _ _ => String.ofList_inj.mp).mp h
  rw [← String.toList_inj, ← join_split sep s.toList, hsplit, join_split]

/-! ## One occurrence -/

/-- The text before and after the first occurrence. -/
def splitFirst (sep : Char) : List Char → Option (List Char × List Char)
  | [] => none
  | c :: cs =>
    if c = sep then some ([], cs)
    else (splitFirst sep cs).map fun p => (c :: p.1, p.2)

/-- The text before and after the last occurrence. -/
def splitLast (sep : Char) : List Char → Option (List Char × List Char)
  | [] => none
  | c :: cs =>
    match splitLast sep cs with
    | some (before, after) => some (c :: before, after)
    | none => if c = sep then some ([], cs) else none

theorem splitFirst_eq_some_iff {sep : Char} {cs before after : List Char} :
    splitFirst sep cs = some (before, after) ↔ cs = before ++ sep :: after ∧ sep ∉ before := by
  induction cs generalizing before with
  | nil => simp [splitFirst]
  | cons c cs ih =>
    by_cases h : c = sep
    · subst h
      simp only [splitFirst, if_true, Option.some.injEq, Prod.mk.injEq]
      constructor
      · rintro ⟨rfl, rfl⟩
        simp
      · rintro ⟨h1, h2⟩
        cases before with
        | nil => simpa using h1
        | cons b before =>
          simp only [List.cons_append, List.cons.injEq] at h1
          exact absurd (by simp [h1.1]) h2
    · simp only [splitFirst, h, if_false, Option.map_eq_some_iff, Prod.mk.injEq, Prod.exists]
      constructor
      · rintro ⟨b, a, hs, rfl, rfl⟩
        obtain ⟨h1, h2⟩ := ih.mp hs
        refine ⟨by simp [h1], ?_⟩
        simp only [List.mem_cons, not_or]
        exact ⟨fun e => h e.symm, h2⟩
      · rintro ⟨h1, h2⟩
        cases before with
        | nil =>
          simp only [List.nil_append, List.cons.injEq] at h1
          exact absurd h1.1 h
        | cons b before =>
          simp only [List.cons_append, List.cons.injEq] at h1
          simp only [List.mem_cons, not_or] at h2
          exact ⟨before, after, ih.mpr ⟨h1.2, h2.2⟩, by rw [h1.1], rfl⟩

theorem splitFirst_eq_none_iff {sep : Char} {cs : List Char} :
    splitFirst sep cs = none ↔ sep ∉ cs := by
  induction cs with
  | nil => simp [splitFirst]
  | cons c cs ih =>
    by_cases h : c = sep
    · simp [splitFirst, h]
    · have h' : ¬ sep = c := fun e => h e.symm
      simp [splitFirst, h, h', ih]

theorem splitLast_eq_none_iff {sep : Char} {cs : List Char} :
    splitLast sep cs = none ↔ sep ∉ cs := by
  induction cs with
  | nil => simp [splitLast]
  | cons c cs ih =>
    unfold splitLast
    cases h : splitLast sep cs with
    | some p =>
      have hm : sep ∈ cs := Decidable.byContradiction fun hn => by simp [ih.mpr hn] at h
      simp [hm]
    | none =>
      have hm := ih.mp h
      by_cases hc : c = sep
      · simp [hc]
      · have hc' : ¬ sep = c := fun e => hc e.symm
        simp [hc, hc', hm]

theorem splitLast_eq_some_iff {sep : Char} {cs before after : List Char} :
    splitLast sep cs = some (before, after) ↔ cs = before ++ sep :: after ∧ sep ∉ after := by
  induction cs generalizing before after with
  | nil => simp [splitLast]
  | cons c cs ih =>
    unfold splitLast
    cases h : splitLast sep cs with
    | some p =>
      obtain ⟨b, a⟩ := p
      have hba := ih.mp h
      simp only [Option.some.injEq, Prod.mk.injEq]
      constructor
      · rintro ⟨rfl, rfl⟩
        exact ⟨by simp [hba.1], hba.2⟩
      · rintro ⟨h1, h2⟩
        cases before with
        | nil =>
          simp only [List.nil_append, List.cons.injEq] at h1
          refine absurd ?_ h2
          rw [← h1.2, hba.1]
          simp
        | cons x before =>
          simp only [List.cons_append, List.cons.injEq] at h1
          have := ih.mpr ⟨h1.2, h2⟩
          rw [h] at this
          simp only [Option.some.injEq, Prod.mk.injEq] at this
          exact ⟨by rw [h1.1, this.1], this.2⟩
    | none =>
      have hm := splitLast_eq_none_iff.mp h
      by_cases hc : c = sep
      · subst hc
        simp only [if_true, Option.some.injEq, Prod.mk.injEq]
        constructor
        · rintro ⟨rfl, rfl⟩
          exact ⟨rfl, hm⟩
        · rintro ⟨h1, _⟩
          cases before with
          | nil => simpa using h1
          | cons x before =>
            simp only [List.cons_append, List.cons.injEq] at h1
            exact absurd (by simp [h1.2]) hm
      · simp only [hc, if_false, reduceCtorEq, false_iff, not_and]
        intro h1
        have : sep ∈ c :: cs := by simp [h1]
        rcases List.mem_cons.mp this with e | e
        · exact absurd e.symm hc
        · exact absurd e hm

end WebForm.Text
