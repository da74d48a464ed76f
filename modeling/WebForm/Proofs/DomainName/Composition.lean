import WebForm.DomainName.Normal
import WebForm.Unicode.Bidi
import WebForm.Unicode.Composition
import WebForm.Unicode.Joining

/-!
# Characters that composition keeps

Composing a text takes composites apart, puts marks into order, and composes what stands together. A
character that is no composite, and that no composite is made of, comes through all three unchanged.

The tables of composites, of combining marks and of directions start beyond ASCII. What they say of
an ASCII character is said once, without a look at them.

* `StandsAlone` says that a character is neither composed nor taken apart.

Results:
* `find?_composites`, `contains_marks`, `value?_bidiClasses`: the tables have no ASCII character.
* `composites_ranges`: the composites are not made of `@` either.
* `StandsAlone.mem_compose`: a character that stands alone is in the composed text when it is in
  the text.
* `standsAlone_of_lt`: an ASCII character stands alone when the table has it in no composite.
* `standsAlone_at`: `@` is such a character.
-/

namespace WebForm.Unicode

/-! ## ASCII characters in the tables -/

set_option maxRecDepth 100000 in
/-- Composites have numbers beyond ASCII, and none is made of `@`. -/
theorem composites_ranges : ∀ r ∈ composites.ranges, 0x80 ≤ r.first ∧ ('@').toNat ∉ r.value :=
  RangeTable.forall_ranges rfl rfl (by decide +kernel)

set_option maxRecDepth 100000 in
theorem marks_ranges : ∀ r ∈ marks.ranges, 0x80 ≤ r.first :=
  RangeTable.forall_ranges rfl rfl (by decide +kernel)

set_option maxRecDepth 100000 in
theorem bidiClasses_ranges : ∀ r ∈ bidiClasses.ranges, 0x80 ≤ r.first :=
  RangeTable.forall_ranges rfl rfl (by decide +kernel)

variable {c : Char}

theorem find?_composites (h : c.toNat < 0x80) : composites.find? c.toNat = none :=
  RangeTable.find?_eq_none fun r hr => Nat.lt_of_lt_of_le h (composites_ranges r hr).1

theorem contains_marks (h : c.toNat < 0x80) : marks.contains c = false := by
  have hfind : marks.find? c.toNat = none :=
    RangeTable.find?_eq_none fun r hr => Nat.lt_of_lt_of_le h (marks_ranges r hr)
  rw [RangeTable.contains, hfind]
  rfl

theorem value?_bidiClasses (h : c.toNat < 0x80) : bidiClasses.value? c = none := by
  have hfind : bidiClasses.find? c.toNat = none :=
    RangeTable.find?_eq_none fun r hr => Nat.lt_of_lt_of_le h (bidiClasses_ranges r hr)
  rw [RangeTable.value?, hfind]
  rfl

end WebForm.Unicode

namespace WebForm.DomainName

open Unicode

/-- The character is no composite, and no part of one. -/
structure StandsAlone (c : Char) : Prop where
  partsOf_eq : ∀ depth, partsOf depth c = [c]
  pair_left : ∀ d, pair? c d = none
  pair_right : ∀ d, pair? d c = none

/-! ## Taking apart -/

theorem mem_placeMark {c d : Char} {k : Nat} {back : List (Char × Nat)} :
    d ∈ (placeMark c k back).map Prod.fst ↔ d = c ∨ d ∈ back.map Prod.fst := by
  induction back with
  | nil => simp [placeMark]
  | cons p back ih =>
    unfold placeMark
    split
    · rw [List.map_cons, List.mem_cons, ih, List.map_cons, List.mem_cons]
      exact or_left_comm
    · rw [List.map_cons, List.mem_cons]

theorem mem_foldl_placeMark {d : Char} : ∀ {cs : List Char} {back : List (Char × Nat)},
    d ∈ (cs.foldl (fun back c => placeMark c (combiningClass c) back) back).map Prod.fst ↔
      d ∈ cs ∨ d ∈ back.map Prod.fst
  | [], back => by simp
  | c :: cs, back => by
    rw [List.foldl_cons, mem_foldl_placeMark, mem_placeMark, List.mem_cons, or_assoc]
    exact or_left_comm

/-- Ordering the marks neither adds nor drops a character. -/
theorem mem_takeApart {cs : List Char} {d : Char} :
    d ∈ (takeApart cs).map Prod.fst ↔ d ∈ cs.flatMap (partsOf 8) := by
  rw [takeApart, List.map_reverse, List.mem_reverse, mem_foldl_placeMark]
  simp

/-! ## Composing -/

variable {c : Char}

/-- Composing what follows a character keeps that character, what is held and what follows, as far
as it stands alone. -/
theorem StandsAlone.mem_composeAfter (h : StandsAlone c) :
    ∀ {text : List (Char × Nat)} {starter : Char} {held : List Char} {last : Nat},
      c = starter ∨ c ∈ held ∨ c ∈ text.map Prod.fst → c ∈ composeAfter starter held last text
  | [], starter, held, last, hc => by
    rw [composeAfter, List.mem_cons, List.mem_reverse]
    simpa using hc
  | (d, k) :: rest, starter, held, last, hc => by
    rw [List.map_cons, List.mem_cons] at hc
    rw [composeAfter]
    split
    · rename_i composite hpair
      -- Neither of the two that are composed stands alone.
      have hsome : pair? starter d = some composite := (Option.ite_none_right_eq_some.mp hpair).2
      have hstarter : c ≠ starter := by
        rintro rfl
        rw [h.pair_left] at hsome
        cases hsome
      have hd : c ≠ d := by
        rintro rfl
        rw [h.pair_right] at hsome
        cases hsome
      exact h.mem_composeAfter (Or.inr ((hc.resolve_left hstarter).imp_right (·.resolve_left hd)))
    · split
      · rw [List.mem_cons, List.mem_append, List.mem_reverse]
        exact hc.imp_right (Or.imp_right fun hrest =>
          h.mem_composeAfter (hrest.imp_right Or.inr))
      · refine h.mem_composeAfter (hc.imp_right fun hrest => ?_)
        rw [List.mem_cons, or_assoc]
        exact or_left_comm.mp hrest

theorem StandsAlone.mem_composeOrdered (h : StandsAlone c) :
    ∀ {text : List (Char × Nat)}, c ∈ text.map Prod.fst → c ∈ composeOrdered text
  | [], hc => absurd hc List.not_mem_nil
  | (d, k) :: rest, hc => by
    rw [List.map_cons, List.mem_cons] at hc
    rw [composeOrdered]
    split
    · exact h.mem_composeAfter (hc.imp_right Or.inr)
    · exact List.mem_cons.mpr (hc.imp_right h.mem_composeOrdered)

/-- **A character that stands alone is kept.** -/
theorem StandsAlone.mem_compose (h : StandsAlone c) {text : List Char} (hc : c ∈ text) :
    c ∈ compose text := by
  unfold compose
  split
  · exact hc
  · refine h.mem_composeOrdered (mem_takeApart.mpr (List.mem_flatMap.mpr ⟨c, hc, ?_⟩))
    rw [h.partsOf_eq]
    exact List.mem_singleton_self c

/-! ## ASCII characters -/

theorem hangulParts?_of_lt (h : c.toNat < 0x80) : hangulParts? c = none := by
  rw [hangulParts?]
  exact if_neg (by omega)

theorem partsOf_of_lt (h : c.toNat < 0x80) : ∀ depth, partsOf depth c = [c]
  | 0 => rfl
  | depth + 1 => by
    have hparts : parts? c = none := by
      rw [parts?, hangulParts?_of_lt h, find?_composites h]
      rfl
    rw [partsOf, hparts]

theorem hangulPair?_of_lt {a b : Char} (h : a.toNat < 0x80 ∨ b.toNat < 0x80) :
    hangulPair? a b = none := by
  simp only [hangulPair?]
  rw [if_neg (by omega), if_neg (by omega)]

theorem pair?_eq_none {a b : Char} (h : a.toNat < 0x80 ∨ b.toNat < 0x80)
    (htable : ∀ r ∈ composites.ranges, r.value ≠ [a.toNat, b.toNat]) : pair? a b = none := by
  rw [pair?, hangulPair?_of_lt h]
  simp only [Option.map_eq_none_iff, Array.find?_eq_none, beq_iff_eq]
  exact htable

/-- **An ASCII character that the table has in no composite stands alone.** -/
theorem standsAlone_of_lt (h : c.toNat < 0x80)
    (htable : ∀ r ∈ composites.ranges, c.toNat ∉ r.value) : StandsAlone c where
  partsOf_eq := partsOf_of_lt h
  pair_left _ := pair?_eq_none (Or.inl h) fun r hr heq =>
    htable r hr (heq ▸ List.mem_cons_self)
  pair_right _ := pair?_eq_none (Or.inr h) fun r hr heq =>
    htable r hr (heq ▸ List.mem_cons_of_mem _ List.mem_cons_self)

theorem standsAlone_at : StandsAlone '@' :=
  standsAlone_of_lt (by decide) fun r hr => (composites_ranges r hr).2

end WebForm.DomainName
