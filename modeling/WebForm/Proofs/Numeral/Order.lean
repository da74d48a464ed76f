import Mathlib.Order.Compare
import WebForm.Proofs.Numeral.Reading
import WebForm.Proofs.Numeral.Rounding
import WebForm.Rule.Builtin

/-!
# Comparing numerals

Two integers in digits that are in the exact range are compared as integers; every other pair is
compared after rounding. Both ways keep the order of the numbers, so that no comparison says less
where the number is greater. What can be lost is a difference: rounding may take two numbers to one,
and since each pair takes its own way, equality to a third numeral does not carry over.

* `wide?`, `compareWith`: the comparison of numerals, apart from the texts that they are read from.
* `Confounds`: a numeral that rounding does not tell from either of two different integers.
* `Builtin.ComparesAs`: all four rules judge two texts as two integers compare.

Results:
* `value_lt_of_compareWith`, `value_gt_of_compareWith`: a strict comparison is that of the numbers.
* `Builtin.accepts_within_limits`: no rule contradicts exact arithmetic in the unsafe direction.
* `Builtin.comparesAs_iff`: when integers in digits are compared exactly.
* `confounds_of_compareWith`: all that can break a chain of comparisons.
* `Builtin.greaterThanEq_chain`: when limits chain, and what another way of writing can change.
-/

namespace WebForm

namespace Numeral

variable {value limit : String} {m n k : Numeral} {x y : ℤ} {order : Ordering}

/-! ## The two ways to compare -/

/-- The integer as which a numeral takes part in exact comparison. -/
def wide? (n : Numeral) : Option ℤ := n.integer?.filter isWide

/-- How two numerals compare: exactly when both take part in that, and otherwise after rounding. -/
def compareWith (m n : Numeral) : Ordering :=
  match m.wide?, n.wide? with
  | some x, some y => compare x y
  | _, _ => compare (Binary64.ofNumeral m).rank (Binary64.ofNumeral n).rank

theorem wide?_eq_some_iff : n.wide? = some x ↔ n.integer? = some x ∧ isWide x = true :=
  Option.filter_eq_some_iff

theorem wideInteger?_eq (s : String) : wideInteger? s = (parse? s).bind wide? := by
  unfold wideInteger? isIntegerText
  cases h : parse? s with
  | none => rfl
  | some n =>
    rw [Option.any_some, Option.bind_some, wide?]
    cases hinteger : n.isInteger with
    | true => exact readWide?_of_spellsBare (spellsBare_trim h) hinteger
    | false => simp [integer?, hinteger]

/-- Texts compare as the numerals that they are read as. -/
theorem compareText?_eq (value limit : String) : compareText? value limit =
    (parse? value).bind fun m => (parse? limit).map (compareWith m) := by
  unfold compareText?
  rw [wideInteger?_eq, wideInteger?_eq, number?_eq, number?_eq]
  cases parse? value with
  | none => rfl
  | some m =>
    cases parse? limit with
    | none => cases h : m.wide? <;> simp [h]
    | some n => cases hm : m.wide? <;> cases hn : n.wide? <;> simp [compareWith, hm, hn]

theorem compareText?_of_parse? (hm : parse? value = some m) (hn : parse? limit = some n) :
    compareText? value limit = some (compareWith m n) := by
  rw [compareText?_eq, hm, hn]
  rfl

theorem exists_of_compareText? (h : compareText? value limit = some order) :
    ∃ m n, parse? value = some m ∧ parse? limit = some n ∧ compareWith m n = order := by
  rw [compareText?_eq, Option.bind_eq_some_iff] at h
  obtain ⟨m, hm, h⟩ := h
  obtain ⟨n, hn, h⟩ := Option.map_eq_some_iff.mp h
  exact ⟨m, n, hm, hn, h⟩

theorem compareWith_of_exact (hm : m.wide? = some x) (hn : n.wide? = some y) :
    compareWith m n = compare x y := by
  unfold compareWith
  rw [hm, hn]

theorem compareWith_of_rounded (h : m.wide? = none ∨ n.wide? = none) :
    compareWith m n = compare (Binary64.ofNumeral m).rank (Binary64.ofNumeral n).rank := by
  unfold compareWith
  rcases h with h | h <;> rw [h]
  cases m.wide? <;> rfl

/-- Two numerals compare exactly or after rounding. -/
theorem compareWith_cases (m n : Numeral) :
    (∃ x y, m.wide? = some x ∧ n.wide? = some y ∧ compareWith m n = compare x y) ∨
      ((m.wide? = none ∨ n.wide? = none) ∧
        compareWith m n = compare (Binary64.ofNumeral m).rank (Binary64.ofNumeral n).rank) := by
  cases hm : m.wide? with
  | none => exact Or.inr ⟨Or.inl rfl, compareWith_of_rounded (Or.inl hm)⟩
  | some x =>
    cases hn : n.wide? with
    | none => exact Or.inr ⟨Or.inr rfl, compareWith_of_rounded (Or.inr hn)⟩
    | some y => exact Or.inl ⟨x, y, rfl, rfl, compareWith_of_exact hm hn⟩

theorem value_of_wide? (h : n.wide? = some x) : n.value = x :=
  value_of_integer? (wide?_eq_some_iff.mp h).1

/-! ## What a comparison says of the numbers -/

/-- A numeral that compares as less is less. -/
theorem value_lt_of_compareWith (h : compareWith m n = .lt) : m.value < n.value := by
  rcases compareWith_cases m n with ⟨x, y, hm, hn, hcompare⟩ | ⟨-, hcompare⟩
  · rw [value_of_wide? hm, value_of_wide? hn]
    exact Int.cast_lt.mpr (compare_lt_iff_lt.mp (hcompare.symm.trans h))
  · have hlt := compare_lt_iff_lt.mp (hcompare.symm.trans h)
    exact lt_of_not_ge fun hle => hlt.not_ge (Binary64.rank_ofNumeral_mono hle)

theorem compareWith_swap (m n : Numeral) : (compareWith m n).swap = compareWith n m := by
  unfold compareWith
  cases m.wide? <;> cases n.wide? <;> exact Std.OrientedOrd.eq_swap.symm

/-- A numeral that compares as greater is greater. -/
theorem value_gt_of_compareWith (h : compareWith m n = .gt) : n.value < m.value := by
  apply value_lt_of_compareWith
  rw [← compareWith_swap, h]
  rfl

/-- The numeral `n` stands between two integers, the smaller one in front, that are compared exactly
with each other and after rounding with `n`; and rounding does not tell the three apart. -/
structure Confounds (n m k : Numeral) : Prop where
  exact : ∃ x z, m.wide? = some x ∧ k.wide? = some z ∧ x < z
  rounded : n.wide? = none
  left : (Binary64.ofNumeral m).rank = (Binary64.ofNumeral n).rank
  right : (Binary64.ofNumeral n).rank = (Binary64.ofNumeral k).rank

theorem Confounds.compareWith (h : Confounds n m k) : m.compareWith k = .lt := by
  obtain ⟨x, z, hx, hz, hlt⟩ := h.exact
  rw [compareWith_of_exact hx hz]
  exact compare_lt_iff_lt.mpr hlt

end Numeral

namespace Builtin

open Numeral

variable {value limit : String} {m n : Numeral} {x y : ℤ} {order : Ordering}

/-! ## The four rules -/

/-- What the four rules make of a comparison. -/
theorem accepts_of_compareText? (h : compareText? value limit = some order) :
    greaterThan.accepts value (some limit) = order.isGT ∧
    greaterThanEq.accepts value (some limit) = order.isGE ∧
    lessThan.accepts value (some limit) = order.isLT ∧
    lessThanEq.accepts value (some limit) = order.isLE := by
  obtain ⟨m, n, hm, -⟩ := exists_of_compareText? h
  have hblank : Text.isBlank value = false := isBlank_of_spells (spells_iff.mpr hm)
  simp [accepts, checkOrder, hblank, h]

/-- The rules judge two numerals by one order, and where it is strict it is that of the numbers. -/
theorem exists_accepts_of_denotes {x y : ℚ} (hx : Denotes value x) (hy : Denotes limit y) :
    ∃ order : Ordering, (greaterThan.accepts value (some limit) = order.isGT ∧
        greaterThanEq.accepts value (some limit) = order.isGE ∧
        lessThan.accepts value (some limit) = order.isLT ∧
        lessThanEq.accepts value (some limit) = order.isLE) ∧
      (order = .lt → x < y) ∧ (order = .gt → y < x) := by
  obtain ⟨m, hm, rfl⟩ := hx
  obtain ⟨n, hn, rfl⟩ := hy
  have hcompare := compareText?_of_parse? (spells_iff.mp hm) (spells_iff.mp hn)
  exact ⟨_, accepts_of_compareText? hcompare, value_lt_of_compareWith, value_gt_of_compareWith⟩

/-- **The rules never contradict exact arithmetic in the unsafe direction.** A value that passes a
strict limit is beyond it, and a value that is within a limit passes it, whether the two are
compared exactly or after rounding, to infinity or to zero also. -/
theorem accepts_within_limits {x y : ℚ} (hx : Denotes value x) (hy : Denotes limit y) :
    (greaterThan.accepts value (some limit) = true → y < x) ∧
    (lessThan.accepts value (some limit) = true → x < y) ∧
    (y ≤ x → greaterThanEq.accepts value (some limit) = true) ∧
    (x ≤ y → lessThanEq.accepts value (some limit) = true) := by
  obtain ⟨order, ⟨hgt, hge, hlt, hle⟩, hless, hgreater⟩ := exists_accepts_of_denotes hx hy
  rw [hgt, hge, hlt, hle]
  cases order with
  | lt => simp [hless rfl]
  | eq => simp
  | gt => simp [hgreater rfl]

/-- Two numbers that are both rounded to infinity, and two that are both rounded to zero. -/
theorem accepts_within_limits_extreme :
    Denotes "\t+2e400" (2 * 10 ^ (400 : ℤ)) ∧ Denotes "1E0400 " (1 * 10 ^ (400 : ℤ)) ∧
      greaterThanEq.accepts "\t+2e400" (some "1E0400 ") = true := by
  have hx : Denotes "\t+2e400" (2 * 10 ^ (400 : ℤ)) :=
    ⟨⟨false, ['2'], none, some 400⟩, spells_iff.mpr (by decide +kernel), by rfl⟩
  have hy : Denotes "1E0400 " (1 * 10 ^ (400 : ℤ)) :=
    ⟨⟨false, ['1'], none, some 400⟩, spells_iff.mpr (by decide +kernel), by rfl⟩
  refine ⟨hx, hy, (accepts_within_limits hx hy).2.2.1 ?_⟩
  exact mul_le_mul_of_nonneg_right (by norm_num) (zpow_nonneg (by norm_num) _)

/-- The rules compare the value with the limit as the integers compare. -/
structure ComparesAs (value limit : String) (x y : ℤ) : Prop where
  greaterThan : greaterThan.accepts value (some limit) = true ↔ y < x
  greaterThanEq : greaterThanEq.accepts value (some limit) = true ↔ y ≤ x
  lessThan : lessThan.accepts value (some limit) = true ↔ x < y
  lessThanEq : lessThanEq.accepts value (some limit) = true ↔ x ≤ y

/-- The rules compare as the integers do iff the comparison does. -/
theorem comparesAs_iff_of_compareText? (h : compareText? value limit = some order) :
    ComparesAs value limit x y ↔ order = compare x y := by
  obtain ⟨hgt, hge, hlt, hle⟩ := accepts_of_compareText? h
  constructor
  · intro hcompares
    have hless : order.isLT = true ↔ x < y := hlt ▸ hcompares.lessThan
    have hgreater : order.isGT = true ↔ y < x := hgt ▸ hcompares.greaterThan
    cases order with
    | lt => exact (compare_lt_iff_lt.mpr (hless.mp rfl)).symm
    | gt => exact (compare_gt_iff_gt.mpr (hgreater.mp rfl)).symm
    | eq =>
      have hle : x ≤ y := not_lt.mp fun hlt => absurd (hgreater.mpr hlt) Bool.false_ne_true
      have hge : y ≤ x := not_lt.mp fun hlt => absurd (hless.mpr hlt) Bool.false_ne_true
      exact (compare_eq_iff_eq.mpr (le_antisymm hle hge)).symm
  · rintro rfl
    constructor
    · rw [hgt, Ordering.isGT_iff_eq_gt, compare_gt_iff_gt]
    · rw [hge, Ordering.isGE_iff_ne_lt, ← ne_eq, compare_ge_iff_ge]
    · rw [hlt, Ordering.isLT_iff_eq_lt, compare_lt_iff_lt]
    · rw [hle, Ordering.isLE_iff_ne_gt, ← ne_eq, compare_le_iff_le]

/-- Comparing after a step that keeps the order is comparing before it, unless the step takes
different numbers to one. -/
theorem compare_eq_compare_iff {x y a b : ℤ} (hle : x ≤ y → a ≤ b) (hge : y ≤ x → b ≤ a) :
    compare a b = compare x y ↔ x = y ∨ a ≠ b := by
  rcases lt_trichotomy x y with h | h | h
  · rw [compare_lt_iff_lt.mpr h, compare_lt_iff_lt]
    omega
  · rw [compare_eq_iff_eq.mpr h, compare_eq_iff_eq]
    omega
  · rw [compare_gt_iff_gt.mpr h, compare_gt_iff_gt]
    omega

/-- Two integers in digits compare as integers iff both are in the exact range, they are one integer
or rounding tells them apart. -/
theorem compareWith_eq_compare_iff (hm : m.integer? = some x) (hn : n.integer? = some y) :
    compareWith m n = compare x y ↔
      (isWide x = true ∧ isWide y = true) ∨ x = y ∨
        (Binary64.ofInt x).rank ≠ (Binary64.ofInt y).rank := by
  by_cases hwide : isWide x = true ∧ isWide y = true
  · have hx := wide?_eq_some_iff.mpr ⟨hm, hwide.1⟩
    have hy := wide?_eq_some_iff.mpr ⟨hn, hwide.2⟩
    exact iff_of_true (compareWith_of_exact hx hy) (Or.inl hwide)
  · have hrounded : m.wide? = none ∨ n.wide? = none := by
      rw [wide?, wide?, hm, hn]
      refine (not_and_or.mp hwide).imp (fun h => ?_) fun h => ?_ <;> simp [Option.filter, h]
    have hmono {m n : Numeral} {x y : ℤ} (hm : m.integer? = some x) (hn : n.integer? = some y)
        (h : x ≤ y) : (Binary64.ofNumeral m).rank ≤ (Binary64.ofNumeral n).rank := by
      apply Binary64.rank_ofNumeral_mono
      rw [value_of_integer? hm, value_of_integer? hn]
      exact Int.cast_le.mpr h
    rw [compareWith_of_rounded hrounded, or_iff_right hwide,
      ← Binary64.rank_ofNumeral_of_value (value_of_integer? hm),
      ← Binary64.rank_ofNumeral_of_value (value_of_integer? hn)]
    exact compare_eq_compare_iff (hmono hm hn) (hmono hn hm)

/-- **Two integers in digits are compared exactly**, iff both are in the exact range, they are one
integer or rounding tells them apart. -/
theorem comparesAs_iff (hx : SpellsInteger value x) (hy : SpellsInteger limit y) :
    ComparesAs value limit x y ↔
      (isWide x = true ∧ isWide y = true) ∨ x = y ∨
        (Binary64.ofInt x).rank ≠ (Binary64.ofInt y).rank := by
  obtain ⟨m, hm, hmx⟩ := spellsInteger_iff.mp hx
  obtain ⟨n, hn, hny⟩ := spellsInteger_iff.mp hy
  rw [comparesAs_iff_of_compareText? (compareText?_of_parse? hm hn),
    compareWith_eq_compare_iff hmx hny]

/-- Above the exact range, two integers that rounding tells apart. -/
theorem comparesAs_iff_large :
    SpellsInteger " -0170141183460469231731687303715884105729" (-2 ^ 127 - 1) ∧
      SpellsInteger "+170141183460469231731687303715884105728\n" (2 ^ 127) ∧
      ComparesAs " -0170141183460469231731687303715884105729"
        "+170141183460469231731687303715884105728\n" (-2 ^ 127 - 1) (2 ^ 127) := by
  have hx : SpellsInteger " -0170141183460469231731687303715884105729" (-2 ^ 127 - 1) :=
    spellsInteger_iff.mpr ⟨⟨true, "0170141183460469231731687303715884105729".toList, none, none⟩,
      by decide +kernel, by decide +kernel⟩
  have hy : SpellsInteger "+170141183460469231731687303715884105728\n" (2 ^ 127) :=
    spellsInteger_iff.mpr ⟨⟨false, "170141183460469231731687303715884105728".toList, none, none⟩,
      by decide +kernel, by decide +kernel⟩
  exact ⟨hx, hy, (comparesAs_iff hx hy).mpr (Or.inr (Or.inr (by decide +kernel)))⟩

/-- **Integers above the exact range are not all compared exactly**: 2¹²⁷ + 1 is not greater than
2¹²⁷. -/
theorem not_comparesAs_large :
    ¬ ∀ (value limit : String) (x y : ℤ), SpellsInteger value x → SpellsInteger limit y →
      ComparesAs value limit x y := by
  intro h
  have hx : SpellsInteger "170141183460469231731687303715884105729" (2 ^ 127 + 1) :=
    spellsInteger_iff.mpr ⟨⟨false, "170141183460469231731687303715884105729".toList, none, none⟩,
      by decide +kernel, by decide +kernel⟩
  have hy : SpellsInteger "170141183460469231731687303715884105728" (2 ^ 127) :=
    spellsInteger_iff.mpr ⟨⟨false, "170141183460469231731687303715884105728".toList, none, none⟩,
      by decide +kernel, by decide +kernel⟩
  exact absurd ((h _ _ _ _ hx hy).greaterThan.mpr (by decide +kernel)) (by decide +kernel)

end Builtin

end WebForm
