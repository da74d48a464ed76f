import Mathlib.Data.Nat.Log
import Mathlib.Tactic.Linarith
import Mathlib.Tactic.Ring
import WebForm.Numeral.Binary64
import WebForm.Proofs.Numeral.Grammar

/-!
# Rounding keeps the order

A numeral is rounded to the nearest number of the format, and a larger one is never rounded to a
smaller number: not at a tie, not where the significand is cut at the next binary digit, not beyond
the largest number of the format or below the least, and not between the two zeros. That the numbers
are fractions does not matter: their order is that of cross products, which are natural numbers.

* `shiftOf`, `significand`: what a rounded magnitude is put together from.
* `ofInt`: the number nearest to an integer.

Results:
* `roundHalfEven_mono`, `roundUnits_mono`: rounding fractions keeps their order, to natural numbers
  and to magnitudes.
* `roundDecimal_eq`: the powers of ten that are not computed would give what is returned for them.
* `roundDecimal_mono`, `rank_ofNumeral_mono`: rounding keeps the order of decimals and of numerals.
* `rank_ofNumeral_of_value`: a numeral for an integer is rounded as the integer.
-/

namespace WebForm.Binary64

variable {n d m e : Nat}

/-! ## To a natural number -/

theorem le_roundHalfEven (n d : Nat) : n / d ≤ roundHalfEven n d := by
  unfold roundHalfEven
  split <;> omega

theorem roundHalfEven_le (n d : Nat) : roundHalfEven n d ≤ n / d + 1 := by
  unfold roundHalfEven
  split <;> omega

/-- Less than a half is rounded down to nothing. -/
theorem roundHalfEven_eq_zero (h : 2 * n < d) : roundHalfEven n d = 0 := by
  have hlt : n < d := by omega
  rw [roundHalfEven, Nat.div_eq_of_lt hlt, Nat.mod_eq_of_lt hlt, if_pos (Or.inl h)]

/-- The quotients of fractions have their order. -/
theorem div_le_div_of_cross (hd : 0 < d) (he : 0 < e) (h : n * e ≤ m * d) : n / d ≤ m / e := by
  rw [Nat.le_div_iff_mul_le he]
  refine Nat.le_of_mul_le_mul_right ?_ hd
  calc n / d * e * d = n / d * d * e := Nat.mul_right_comm _ _ _
    _ ≤ n * e := Nat.mul_le_mul_right e (Nat.div_mul_le_self n d)
    _ ≤ m * d := h

/-- Rounding to a natural number keeps the order of fractions. -/
theorem roundHalfEven_mono (hd : 0 < d) (he : 0 < e) (h : n * e ≤ m * d) :
    roundHalfEven n d ≤ roundHalfEven m e := by
  rcases Nat.lt_or_eq_of_le (div_le_div_of_cross hd he h) with hlt | heq
  · exact (roundHalfEven_le n d).trans ((Nat.succ_le_of_lt hlt).trans (le_roundHalfEven m e))
  · -- With one quotient, the remainders have the order of the fractions.
    have hmod : n % d * e ≤ m % e * d := by
      have hn : n * e = m / e * (d * e) + n % d * e := by
        conv_lhs => rw [← Nat.div_add_mod n d, heq]
        ring
      have hm : m * d = m / e * (d * e) + m % e * d := by
        conv_lhs => rw [← Nat.div_add_mod m e]
        ring
      omega
    by_cases hdown : 2 * (m % e) < e ∨ (2 * (m % e) = e ∧ m / e % 2 = 0)
    · have hdown' : 2 * (n % d) < d ∨ (2 * (n % d) = d ∧ n / d % 2 = 0) := by
        rcases hdown with hlt | ⟨hhalf, heven⟩
        · refine Or.inl (Nat.lt_of_mul_lt_mul_right (a := e) ?_)
          calc 2 * (n % d) * e ≤ 2 * (m % e) * d := by linarith
            _ < e * d := Nat.mul_lt_mul_of_pos_right hlt hd
            _ = d * e := Nat.mul_comm e d
        · have hle : 2 * (n % d) ≤ d := by
            refine Nat.le_of_mul_le_mul_right (c := e) ?_ he
            calc 2 * (n % d) * e ≤ 2 * (m % e) * d := by linarith
              _ = d * e := by rw [hhalf, Nat.mul_comm]
          rcases Nat.lt_or_eq_of_le hle with hlt | hhalf'
          · exact Or.inl hlt
          · exact Or.inr ⟨hhalf', heq ▸ heven⟩
      rw [roundHalfEven, if_pos hdown', heq]
      exact le_roundHalfEven m e
    · rw [roundHalfEven.eq_1 m e, if_neg hdown, ← heq]
      exact roundHalfEven_le n d

/-! ## To a magnitude -/

theorem leading_eq : leading = 2 ^ 52 := by decide

/-- The binary digits of the quotient that rounding leaves out. -/
def shiftOf (n d : Nat) : Nat := Nat.log2 (n / d) - 52

/-- The significand to which a quotient is rounded; it may carry into one digit more. -/
def significand (n d : Nat) : Nat := roundHalfEven n (d * 2 ^ shiftOf n d)

theorem roundUnits_eq (n d : Nat) :
    roundUnits n d = min infinity (shiftOf n d * leading + significand n d) := rfl

theorem significand_le (n d : Nat) : significand n d ≤ 2 * leading := by
  refine (roundHalfEven_le _ _).trans ?_
  rw [Nat.succ_le_iff, ← Nat.div_div_eq_div_mul, Nat.div_lt_iff_lt_mul (Nat.two_pow_pos _),
    leading_eq, ← Nat.pow_succ', ← Nat.pow_add]
  refine Nat.lt_log2_self.trans_le (Nat.pow_le_pow_right Nat.two_pos ?_)
  unfold shiftOf
  omega

/-- A quotient of which digits are left out fills the significand. -/
theorem leading_le_significand (h : 0 < shiftOf n d) : leading ≤ significand n d := by
  refine le_trans ?_ (le_roundHalfEven _ _)
  rw [← Nat.div_div_eq_div_mul, Nat.le_div_iff_mul_le (Nat.two_pow_pos _), leading_eq,
    ← Nat.pow_add]
  unfold shiftOf at h ⊢
  have hne : n / d ≠ 0 := by
    intro hzero
    rw [hzero] at h
    exact absurd h (by decide)
  rw [show 52 + (Nat.log2 (n / d) - 52) = Nat.log2 (n / d) by omega]
  exact Nat.log2_self_le hne

theorem shiftOf_mono (hd : 0 < d) (he : 0 < e) (h : n * e ≤ m * d) : shiftOf n d ≤ shiftOf m e := by
  unfold shiftOf
  rw [Nat.log2_eq_log_two, Nat.log2_eq_log_two]
  exact Nat.sub_le_sub_right (Nat.log_mono_right (div_le_div_of_cross hd he h)) 52

/-- **Rounding keeps the order of fractions**, also across the binary digit at which the significand
is cut. -/
theorem roundUnits_mono (hd : 0 < d) (he : 0 < e) (h : n * e ≤ m * d) :
    roundUnits n d ≤ roundUnits m e := by
  rw [roundUnits_eq, roundUnits_eq]
  refine min_le_min_left infinity ?_
  rcases Nat.lt_or_eq_of_le (shiftOf_mono hd he h) with hlt | heq
  · calc shiftOf n d * leading + significand n d
        ≤ shiftOf n d * leading + 2 * leading := Nat.add_le_add_left (significand_le n d) _
      _ = (shiftOf n d + 1) * leading + leading := by ring
      _ ≤ shiftOf m e * leading + significand m e :=
        Nat.add_le_add (Nat.mul_le_mul_right leading hlt)
          (leading_le_significand (Nat.zero_lt_of_lt hlt))
  · rw [heq]
    refine Nat.add_le_add_left (roundHalfEven_mono ?_ ?_ ?_) _
    · exact Nat.mul_pos hd (Nat.two_pow_pos _)
    · exact Nat.mul_pos he (Nat.two_pow_pos _)
    · rw [heq, ← Nat.mul_assoc, ← Nat.mul_assoc]
      exact Nat.mul_le_mul_right _ h

theorem roundUnits_eq_zero (h : 2 * n < d) : roundUnits n d = 0 := by
  have hshift : shiftOf n d = 0 := by rw [shiftOf, Nat.div_eq_of_lt (by omega)]; decide
  have hsignificand : significand n d = 0 := by
    rw [significand, hshift, Nat.pow_zero, Nat.mul_one, roundHalfEven_eq_zero h]
  rw [roundUnits_eq, hshift, hsignificand]
  rfl

theorem roundUnits_eq_infinity {k : Nat} (hk : 1024 + 1074 ≤ k) (h : 2 ^ k ≤ n / d) :
    roundUnits n d = infinity := by
  have hne : n / d ≠ 0 := ((Nat.two_pow_pos k).trans_le h).ne'
  have hshift : 2046 ≤ shiftOf n d := by
    have := (Nat.le_log2 hne).mpr h
    unfold shiftOf
    omega
  rw [roundUnits_eq, Nat.min_eq_left]
  calc infinity = 2046 * leading + leading := by decide
    _ ≤ shiftOf n d * leading + significand n d :=
      Nat.add_le_add (Nat.mul_le_mul_right leading hshift) (leading_le_significand (by omega))

/-! ## Decimals -/

theorem one_pos : 0 < one := by decide +kernel

theorem two_pow_mul_one (k : Nat) : 2 ^ k * one = 2 ^ (k + 1074) := by
  unfold one
  generalize 1074 = m
  exact (Nat.pow_add 2 k m).symm

theorem two_pow_le_ten_pow (k : Nat) : 2 ^ (3 * k) ≤ 10 ^ k := by
  rw [Nat.pow_mul]
  exact Nat.pow_le_pow_left (by decide) k

/-- The powers of ten that are not computed would give what is returned in their place. -/
theorem roundDecimal_eq (c : Nat) (p : Int) :
    roundDecimal c p = roundUnits (c * 10 ^ p.toNat * one) (10 ^ (-p).toNat) := by
  cases p with
  | ofNat k =>
    change (if c = 0 then 0 else if 1024 ≤ 3 * k then infinity
      else roundUnits (c * 10 ^ k * one) 1) =
        roundUnits (c * 10 ^ k * one) (10 ^ (-(k : Int)).toNat)
    rw [show (-(k : Int)).toNat = 0 by omega, Nat.pow_zero]
    split_ifs with hzero hlarge
    · rw [hzero, Nat.zero_mul, Nat.zero_mul, roundUnits_eq_zero (by decide)]
    · rw [roundUnits_eq_infinity (k := 3 * k + 1074) (by omega)]
      rw [Nat.div_one, ← two_pow_mul_one]
      refine Nat.mul_le_mul_right one ((two_pow_le_ten_pow k).trans ?_)
      exact Nat.le_mul_of_pos_left _ (Nat.pos_of_ne_zero hzero)
    · rfl
  | negSucc k =>
    change (if Nat.log2 c + 1076 ≤ 3 * (k + 1) then 0
      else roundUnits (c * one) (10 ^ (k + 1))) = roundUnits (c * 10 ^ 0 * one) (10 ^ (k + 1))
    rw [Nat.pow_zero, Nat.mul_one]
    split_ifs with hsmall
    · rw [roundUnits_eq_zero]
      calc 2 * (c * one) < 2 * (2 ^ (Nat.log2 c + 1) * one) :=
            Nat.mul_lt_mul_of_pos_left (Nat.mul_lt_mul_of_pos_right Nat.lt_log2_self one_pos)
              Nat.two_pos
        _ = 2 ^ (Nat.log2 c + 1076) := by rw [two_pow_mul_one, ← Nat.pow_succ']
        _ ≤ 2 ^ (3 * (k + 1)) := Nat.pow_le_pow_right Nat.two_pos hsmall
        _ ≤ 10 ^ (k + 1) := two_pow_le_ten_pow (k + 1)
    · rfl

theorem ten_zpow_eq (p : Int) : (10 : ℚ) ^ p = 10 ^ p.toNat / 10 ^ (-p).toNat := by
  conv_lhs => rw [← Int.toNat_sub_toNat_neg p]
  rw [zpow_sub₀ (by norm_num), zpow_natCast, zpow_natCast]

/-- **Rounding keeps the order of decimals**, whatever their powers of ten are: the ones that are
out of the format's reach included. -/
theorem roundDecimal_mono {b c : Nat} {p q : Int} (h : (b : ℚ) * 10 ^ p ≤ c * 10 ^ q) :
    roundDecimal b p ≤ roundDecimal c q := by
  rw [roundDecimal_eq, roundDecimal_eq]
  refine roundUnits_mono (by positivity) (by positivity) ?_
  rw [ten_zpow_eq, ten_zpow_eq, ← mul_div_assoc, ← mul_div_assoc,
    div_le_div_iff₀ (by positivity) (by positivity)] at h
  have hcross : b * 10 ^ p.toNat * 10 ^ (-q).toNat ≤ c * 10 ^ q.toNat * 10 ^ (-p).toNat := by
    exact_mod_cast h
  calc b * 10 ^ p.toNat * one * 10 ^ (-q).toNat
      = b * 10 ^ p.toNat * 10 ^ (-q).toNat * one := Nat.mul_right_comm _ _ _
    _ ≤ c * 10 ^ q.toNat * 10 ^ (-p).toNat * one := Nat.mul_le_mul_right one hcross
    _ = c * 10 ^ q.toNat * one * 10 ^ (-p).toNat := Nat.mul_right_comm _ _ _

theorem roundDecimal_eq_zero {c : Nat} {p : Int} (h : (c : ℚ) * 10 ^ p ≤ 0) :
    roundDecimal c p = 0 := by
  have hle : roundDecimal c p ≤ roundDecimal 0 0 := roundDecimal_mono (by simpa using h)
  exact Nat.le_zero.mp hle

/-! ## Numerals -/

/-- The number nearest to an integer. -/
def ofInt (z : ℤ) : Binary64 := ⟨decide (z < 0), roundDecimal z.natAbs 0⟩

theorem absolute_nonneg (n : Numeral) : 0 ≤ n.absolute :=
  mul_nonneg (Nat.cast_nonneg _) (zpow_nonneg (by norm_num) _)

theorem rank_ofNumeral (n : Numeral) : (ofNumeral n).rank =
    if n.negative then -(roundDecimal n.coefficient n.scale : ℤ)
    else roundDecimal n.coefficient n.scale := rfl

/-- **Rounding keeps the order of numerals**, with negative numbers, both zeros and both infinities
among the results. -/
theorem rank_ofNumeral_mono {a b : Numeral} (h : a.value ≤ b.value) :
    (ofNumeral a).rank ≤ (ofNumeral b).rank := by
  have hmono {a b : Numeral} (h : a.absolute ≤ b.absolute) :
      roundDecimal a.coefficient a.scale ≤ roundDecimal b.coefficient b.scale := roundDecimal_mono h
  have hzero {a : Numeral} (h : a.absolute ≤ 0) : roundDecimal a.coefficient a.scale = 0 :=
    roundDecimal_eq_zero h
  have hpos := absolute_nonneg a
  have hpos' := absolute_nonneg b
  rw [rank_ofNumeral, rank_ofNumeral]
  unfold Numeral.value at h
  cases ha : a.negative <;> cases hb : b.negative <;>
    simp only [ha, hb, if_true, if_false, Bool.false_eq_true] at h ⊢
  case false.false => exact Int.ofNat_le.mpr (hmono h)
  case false.true =>
    -- Only the two zeros are left.
    rw [hzero (by linarith : a.absolute ≤ 0), hzero (by linarith : b.absolute ≤ 0)]
    rfl
  case true.false => omega
  case true.true => exact neg_le_neg (Int.ofNat_le.mpr (hmono (neg_le_neg_iff.mp h)))

theorem rank_ofInt_natCast (k : Nat) : (ofInt k).rank = roundDecimal k 0 := by
  simp [rank, ofInt]

theorem rank_ofInt_neg (k : Nat) : (ofInt (-k)).rank = -(roundDecimal k 0 : ℤ) := by
  rcases Nat.eq_zero_or_pos k with rfl | hk
  · rfl
  · simp [rank, ofInt, hk]

/-- A numeral for an integer is rounded as the integer, in whatever notation; zero may have a minus
sign. -/
theorem rank_ofNumeral_of_value {n : Numeral} {z : ℤ} (h : n.value = z) :
    (ofNumeral n).rank = (ofInt z).rank := by
  have hround {k : Nat} (h : n.absolute = k) :
      roundDecimal n.coefficient n.scale = roundDecimal k 0 := by
    have hzero : (k : ℚ) * 10 ^ (0 : ℤ) = n.absolute := by rw [zpow_zero, mul_one, h]
    exact le_antisymm (roundDecimal_mono hzero.ge) (roundDecimal_mono hzero.le)
  have hpos := absolute_nonneg n
  rw [rank_ofNumeral]
  unfold Numeral.value at h
  cases hn : n.negative with
  | false =>
    rw [hn, if_neg Bool.false_ne_true] at h
    obtain ⟨k, rfl⟩ := Int.eq_ofNat_of_zero_le (Int.cast_nonneg_iff.mp (h ▸ hpos : (0 : ℚ) ≤ z))
    rw [hround (by simpa using h), rank_ofInt_natCast]
    rfl
  | true =>
    rw [hn, if_pos rfl] at h
    have hz : z ≤ 0 := Int.cast_nonpos.mp (h ▸ neg_nonpos.mpr hpos : (z : ℚ) ≤ 0)
    obtain ⟨k, rfl⟩ := Int.exists_eq_neg_ofNat hz
    rw [hround (by simpa using h), rank_ofInt_neg]
    rfl

end WebForm.Binary64
