import WebForm.Proofs.Numeral.Language
import WebForm.Proofs.Numeral.Order
import WebForm.Proofs.Numeral.Truncation

/-!
# Rules with a numeric limit

Seven built-in rules need a number as their argument: four compare the value with it, three the
length of the value. Without one they reject every value that is not blank, and the comparing rules
also reject every other value that is no number itself. With one, the comparing rules judge by one
total order, so that they agree with each other; and the length rules judge as if they compared the
length with the exact number, when that is an integer, although it is rounded and cut to 64 bits on
its way.

* `comparing`, `measuring`: the four rules and the three.

Results:
* `compareText?_eq_none_iff`, `lengthLimit?_eq_none_iff`: texts compare, and a length is limited,
  iff there are numerals.
* `accepts_comparing_eq_false`, `accepts_measuring_eq_false`: without them the rules reject.
* `comparing_consistent`: the comparing rules contradict neither each other nor themselves when the
  two sides are swapped.
* `measuring_exact`: a length is compared with the exact integer, in whatever notation and however
  large it is.
-/

namespace WebForm

namespace Numeral

variable {s value limit : String}

theorem parse?_eq_none_iff : parse? s = none ↔ isNumeral s = false := by
  rw [isNumeral, Option.isSome_eq_false_iff, Option.isNone_iff_eq_none]

theorem exists_parse?_of_isNumeral (h : isNumeral s = true) : ∃ n, parse? s = some n :=
  Option.isSome_iff_exists.mp h

/-- Texts compare iff both are numerals. -/
theorem compareText?_eq_none_iff :
    compareText? value limit = none ↔ isNumeral value = false ∨ isNumeral limit = false := by
  rw [compareText?_eq, ← parse?_eq_none_iff, ← parse?_eq_none_iff]
  cases parse? value <;> cases parse? limit <;> simp

/-- Numerals compare, and the other way round they compare in the reverse order. -/
theorem exists_compareText? (hvalue : isNumeral value = true) (hlimit : isNumeral limit = true) :
    ∃ order, compareText? value limit = some order ∧
      compareText? limit value = some order.swap := by
  obtain ⟨m, hm⟩ := exists_parse?_of_isNumeral hvalue
  obtain ⟨n, hn⟩ := exists_parse?_of_isNumeral hlimit
  refine ⟨compareWith m n, compareText?_of_parse? hm hn, ?_⟩
  rw [compareWith_swap]
  exact compareText?_of_parse? hn hm

end Numeral

namespace Builtin

open Numeral

variable {value limit : String} {argument : Option String} {rule : Builtin} {z : ℤ}

/-! ## Without a number -/

/-- The rules that compare the value with their argument. -/
def comparing : List Builtin := [greaterThan, greaterThanEq, lessThan, lessThanEq]

/-- The rules that compare the length of the value with their argument. -/
def measuring : List Builtin := [minLength, maxLength, exactLength]

theorem lengthLimit?_eq_none_iff :
    lengthLimit? argument = none ↔ ∀ limit ∈ argument, isNumeral limit = false := by
  rw [lengthLimit?, Option.map_eq_none_iff, Option.bind_eq_none_iff]
  refine forall₂_congr fun limit _ => ?_
  rw [number?_eq, Option.map_eq_none_iff, parse?_eq_none_iff]

/-- A length rule without a number rejects every value that is not blank. -/
theorem accepts_measuring_eq_false (hrule : rule ∈ measuring)
    (hvalue : Text.isBlank value = false) (h : ∀ limit ∈ argument, isNumeral limit = false) :
    rule.accepts value argument = false := by
  have hcheck (accept : Int → Int → Bool) : checkLength accept value argument = false := by
    rw [checkLength, hvalue, if_neg Bool.false_ne_true, lengthLimit?_eq_none_iff.mpr h]
  simp only [measuring, List.mem_cons, List.not_mem_nil, or_false] at hrule
  obtain rfl | rfl | rfl := hrule <;> rw [accepts, hcheck]

/-- A comparing rule without two numbers rejects every value that is not blank. -/
theorem accepts_comparing_eq_false (hrule : rule ∈ comparing)
    (hvalue : Text.isBlank value = false)
    (h : isNumeral value = false ∨ ∀ limit ∈ argument, isNumeral limit = false) :
    rule.accepts value argument = false := by
  have hcompare : argument.bind (compareText? value) = none := by
    rw [Option.bind_eq_none_iff]
    exact fun limit hlimit => compareText?_eq_none_iff.mpr (h.imp id fun h => h limit hlimit)
  have hcheck (accept : Ordering → Bool) : checkOrder accept value argument = false := by
    rw [checkOrder, hvalue, if_neg Bool.false_ne_true, hcompare]
  simp only [comparing, List.mem_cons, List.not_mem_nil, or_false] at hrule
  obtain rfl | rfl | rfl | rfl := hrule <;> rw [accepts, hcheck]

/-! ## Two numbers -/

/-- **The comparing rules are consistent, and fail closed.** Without two numbers they all reject a
value that is not blank. Of two numbers exactly one is greater, or is less, or the two pass both as
lower and as upper limits; each strict rule is the opposite of a weak one; and the rules are dual. -/
theorem comparing_consistent :
    (∀ (value : String) (argument : Option String), Text.isBlank value = false →
      (isNumeral value = false ∨ ∀ limit ∈ argument, isNumeral limit = false) →
      ∀ rule ∈ comparing, rule.accepts value argument = false) ∧
    ∀ value limit : String, isNumeral value = true → isNumeral limit = true →
      [greaterThan.accepts value (some limit), lessThan.accepts value (some limit),
        greaterThanEq.accepts value (some limit) &&
          lessThanEq.accepts value (some limit)].count true = 1 ∧
      greaterThanEq.accepts value (some limit) = !lessThan.accepts value (some limit) ∧
      lessThanEq.accepts value (some limit) = !greaterThan.accepts value (some limit) ∧
      greaterThan.accepts value (some limit) = lessThan.accepts limit (some value) ∧
      greaterThanEq.accepts value (some limit) = lessThanEq.accepts limit (some value) := by
  constructor
  · exact fun value argument hvalue h rule hrule => accepts_comparing_eq_false hrule hvalue h
  · intro value limit hvalue hlimit
    obtain ⟨order, horder, hswap⟩ := exists_compareText? hvalue hlimit
    obtain ⟨hgt, hge, hlt, hle⟩ := accepts_of_compareText? horder
    obtain ⟨-, -, hlt', hle'⟩ := accepts_of_compareText? hswap
    rw [hgt, hge, hlt, hle, hlt', hle']
    cases order <;> decide

/-- A value that has no digits, one that is compared with no number, and two numbers that are far
beyond every finite one. -/
theorem comparing_consistent_extreme :
    (Text.isBlank "ten" = false ∧ isNumeral "ten" = false ∧
      lessThanEq.accepts "ten" (some "10") = false) ∧
    (Text.isBlank "5" = false ∧ lessThan.accepts "5" none = false) ∧
    isNumeral " 1e400" = true ∧ isNumeral "-1e400\n" = true ∧
      greaterThan.accepts " 1e400" (some "-1e400\n") =
        lessThan.accepts "-1e400\n" (some " 1e400") := by
  have hten : Text.isBlank "ten" = false ∧ isNumeral "ten" = false := by decide +kernel
  have hfive : Text.isBlank "5" = false := by decide +kernel
  have hlarge : isNumeral " 1e400" = true ∧ isNumeral "-1e400\n" = true := by decide +kernel
  refine ⟨⟨hten.1, hten.2, ?_⟩, ⟨hfive, ?_⟩, hlarge.1, hlarge.2, ?_⟩
  · exact comparing_consistent.1 "ten" (some "10") hten.1 (Or.inl hten.2) _ (by decide)
  · exact comparing_consistent.1 "5" none hfive (Or.inr (by simp)) _ (by decide)
  · exact (comparing_consistent.2 _ _ hlarge.1 hlarge.2).2.2.2.1

/-! ## A length and a number -/

/-- The limit that an integer sets, in whatever notation, stands to every length below 2⁵³ as the
integer does. -/
theorem exists_lengthLimit?_of_denotes (h : Denotes limit z) :
    ∃ l, lengthLimit? (some limit) = some l ∧
      ∀ x : ℤ, x.natAbs < 2 ^ 53 → compare x l = compare x z := by
  obtain ⟨n, hn, hz⟩ := h
  refine ⟨(Binary64.ofNumeral n).toInt64, ?_, fun x hx => Binary64.compare_toInt64 hz hx⟩
  rw [lengthLimit?, Option.bind_some, number?_eq, spells_iff.mp hn]
  rfl

/-- **Length rules compare the length with the exact integer**, in whatever notation it is and
however large, and reject every value that is not blank when there is no number. -/
theorem measuring_exact (hvalue : Text.isBlank value = false) :
    (value.length < 2 ^ 53 → ∀ (limit : String) (z : ℤ), Denotes limit z →
      (minLength.accepts value (some limit) = true ↔ z ≤ value.length) ∧
      (maxLength.accepts value (some limit) = true ↔ (value.length : ℤ) ≤ z) ∧
      (exactLength.accepts value (some limit) = true ↔ (value.length : ℤ) = z)) ∧
    ∀ argument : Option String, (∀ limit ∈ argument, isNumeral limit = false) →
      ∀ rule ∈ measuring, rule.accepts value argument = false := by
  constructor
  · intro hlength limit z hz
    obtain ⟨l, hl, hcompare⟩ := exists_lengthLimit?_of_denotes hz
    have heq := hcompare value.length (by simpa using hlength)
    have hlt : (value.length : ℤ) < l ↔ (value.length : ℤ) < z := by
      rw [← compare_lt_iff_lt, heq, compare_lt_iff_lt]
    have hgt : l < (value.length : ℤ) ↔ z < (value.length : ℤ) := by
      rw [← compare_gt_iff_gt, heq, compare_gt_iff_gt]
    simp only [accepts, checkLength, hvalue, hl, Bool.false_eq_true, if_false,
      decide_eq_true_eq, beq_iff_eq]
    omega
  · exact fun argument h rule hrule => accepts_measuring_eq_false hrule hvalue h

/-- Three characters against three in another notation, a limit that no float can hold, a negative
one, and none. -/
theorem measuring_exact_notations :
    Text.isBlank "日本語" = false ∧ "日本語".length < 2 ^ 53 ∧ Denotes "0.3e+1" (3 : ℤ) ∧
      exactLength.accepts "日本語" (some "0.3e+1") = true ∧ Denotes "-1e400" (-10 ^ 400 : ℤ) ∧
      minLength.accepts "日本語" (some "-1e400") = true ∧
      maxLength.accepts "日本語" (some "three") = false := by
  have hvalue : Text.isBlank "日本語" = false := by decide +kernel
  have hlength : "日本語".length < 2 ^ 53 := by decide +kernel
  have hthree : Denotes "0.3e+1" (3 : ℤ) :=
    ⟨⟨false, ['0'], some ['3'], some 1⟩, spells_iff.mpr (by decide +kernel), by decide +kernel⟩
  have hnegative : Denotes "-1e400" (-10 ^ 400 : ℤ) :=
    ⟨⟨true, ['1'], none, some 400⟩, spells_iff.mpr (by decide +kernel), by decide +kernel⟩
  obtain ⟨hexact, hclosed⟩ := measuring_exact hvalue
  refine ⟨hvalue, hlength, hthree, ?_, hnegative, ?_, ?_⟩
  · exact (hexact hlength _ _ hthree).2.2.mpr rfl
  · exact (hexact hlength _ _ hnegative).1.mpr (by decide +kernel)
  · exact hclosed (some "three") (by decide +kernel) _ (by decide)

end Builtin

end WebForm
