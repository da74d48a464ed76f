import Mathlib.Order.Compare
import WebForm.Proofs.Numeral.Rounding

/-!
# Rounded numbers cut to integers

A number of the format is cut to an integer toward zero and clamped to 64 bits. Cutting keeps the
order of numbers, and integers that have at most 53 binary digits come through rounding and cutting
unchanged. Larger integers may not, but they stay on their side of these: with a number below 2⁵³ an
integer compares as what it is rounded and cut to, however large it is.

* `Normalized`: a significand that belongs to a magnitude, with its power of two.

Results:
* `units_add`, `exists_normalized`: magnitudes are made of significands and powers of two.
* `units_mono`: larger magnitudes are larger numbers.
* `units_roundUnits`: what fits into the significand is not changed by rounding.
* `toInt64_mono`, `toInt64_ofInt`: cutting keeps the order, and integers of 53 digits.
* `compare_toInt64`: an integer, rounded and cut, compares as the integer.
-/

namespace WebForm.Binary64

variable {m m' n shift shift' s s' : Nat}

/-! ## Magnitudes -/

/-- The significand fits, and fills its digits unless the power of two is the least one. -/
structure Normalized (shift s : Nat) : Prop where
  lt : s < 2 * leading
  full : shift = 0 ∨ leading ≤ s

theorem leading_pos : 0 < leading := by decide

/-- A magnitude is that of its significand, times its power of two. -/
theorem units_add (h : Normalized shift s) : units (shift * leading + s) = s * 2 ^ shift := by
  have hlt := h.lt
  unfold units
  rcases Nat.lt_or_ge s leading with hs | hs
  · obtain rfl : shift = 0 := h.full.resolve_right (Nat.not_le.mpr hs)
    rw [Nat.zero_mul, Nat.zero_add, if_pos hs, Nat.pow_zero, Nat.mul_one]
  · obtain ⟨r, rfl⟩ := Nat.exists_eq_add_of_le hs
    have hr : r < leading := by omega
    have hadd : shift * leading + (leading + r) = r + leading * (shift + 1) := by ring
    rw [if_neg (by omega), hadd, Nat.add_mul_div_left _ _ leading_pos,
      Nat.add_mul_mod_self_left, Nat.div_eq_of_lt hr, Nat.mod_eq_of_lt hr]
    congr 2
    omega

/-- Every magnitude has a significand. -/
theorem exists_normalized (m : Nat) : ∃ shift s, Normalized shift s ∧ m = shift * leading + s := by
  rcases Nat.lt_or_ge m leading with h | h
  · exact ⟨0, m, ⟨by omega, Or.inl rfl⟩, by omega⟩
  · have hmod := Nat.mod_lt m leading_pos
    have hdiv : 1 ≤ m / leading := (Nat.one_le_div_iff leading_pos).mpr h
    refine ⟨m / leading - 1, leading + m % leading, ⟨by omega, Or.inr (by omega)⟩, ?_⟩
    calc m = leading * (m / leading) + m % leading := (Nat.div_add_mod m leading).symm
      _ = leading * (m / leading - 1 + 1) + m % leading := by rw [Nat.sub_add_cancel hdiv]
      _ = (m / leading - 1) * leading + (leading + m % leading) := by ring

/-- The larger magnitude has the larger power of two. -/
theorem Normalized.shift_le (h : Normalized shift s) (h' : Normalized shift' s')
    (hle : shift * leading + s ≤ shift' * leading + s') : shift ≤ shift' := by
  by_contra hlt
  have hfull : leading ≤ s := h.full.resolve_left (by omega)
  have hlt' := h'.lt
  have hmul : (shift' + 1) * leading ≤ shift * leading := Nat.mul_le_mul_right _ (by omega)
  rw [Nat.add_mul, Nat.one_mul] at hmul
  omega

/-- **Larger magnitudes are larger numbers.** -/
theorem units_mono (h : m ≤ m') : units m ≤ units m' := by
  obtain ⟨shift, s, hs, rfl⟩ := exists_normalized m
  obtain ⟨shift', s', hs', rfl⟩ := exists_normalized m'
  rw [units_add hs, units_add hs']
  rcases Nat.eq_or_lt_of_le (hs.shift_le hs' h) with rfl | hlt
  · exact Nat.mul_le_mul_right _ (by omega)
  · have hfull : leading ≤ s' := hs'.full.resolve_left (by omega)
    calc s * 2 ^ shift ≤ 2 * leading * 2 ^ shift := Nat.mul_le_mul_right _ hs.lt.le
      _ = leading * 2 ^ (shift + 1) := by ring
      _ ≤ s' * 2 ^ shift' := Nat.mul_le_mul hfull (Nat.pow_le_pow_right Nat.two_pos hlt)

/-! ## What rounding does not change -/

theorem roundHalfEven_of_dvd {d : Nat} (hd : 0 < d) (h : d ∣ n) : roundHalfEven n d = n / d := by
  have hmod : n % d = 0 := Nat.mod_eq_zero_of_dvd h
  rw [roundHalfEven, if_pos (Or.inl (by omega))]

theorem normalized_significand (h : 2 ^ shiftOf n 1 ∣ n) :
    Normalized (shiftOf n 1) (n / 2 ^ shiftOf n 1) := by
  have heq : significand n 1 = n / 2 ^ shiftOf n 1 := by
    rw [significand, Nat.one_mul, roundHalfEven_of_dvd (Nat.two_pow_pos _) h]
  constructor
  · rw [Nat.div_lt_iff_lt_mul (Nat.two_pow_pos _), leading_eq, ← Nat.pow_succ', ← Nat.pow_add]
    refine Nat.lt_log2_self.trans_le (Nat.pow_le_pow_right Nat.two_pos ?_)
    rw [shiftOf, Nat.div_one]
    omega
  · rw [← heq]
    exact (Nat.eq_zero_or_pos _).imp id leading_le_significand

/-- **What fits into the significand is not changed by rounding**, in the range of the format. -/
theorem units_roundUnits (h : 2 ^ shiftOf n 1 ∣ n) (hn : Nat.log2 n < 1024 + 1074) :
    units (roundUnits n 1) = n := by
  have hnormalized := normalized_significand h
  have hfits : shiftOf n 1 * leading + n / 2 ^ shiftOf n 1 ≤ infinity := by
    have hshift : shiftOf n 1 ≤ 2045 := by
      rw [shiftOf, Nat.div_one]
      omega
    calc shiftOf n 1 * leading + n / 2 ^ shiftOf n 1 ≤ 2045 * leading + 2 * leading :=
          Nat.add_le_add (Nat.mul_le_mul_right _ hshift) hnormalized.lt.le
      _ = infinity := by decide
  rw [roundUnits_eq, significand, Nat.one_mul, roundHalfEven_of_dvd (Nat.two_pow_pos _) h,
    Nat.min_eq_right hfits, units_add hnormalized, Nat.div_mul_cancel h]

theorem log2_mul_two_pow (hn : n ≠ 0) (k : Nat) : Nat.log2 (n * 2 ^ k) = Nat.log2 n + k := by
  have hpos := Nat.two_pow_pos k
  rw [Nat.log2_eq_iff (Nat.mul_ne_zero hn hpos.ne'), Nat.add_right_comm, Nat.pow_add, Nat.pow_add]
  exact ⟨Nat.mul_le_mul_right _ (Nat.log2_self_le hn),
    Nat.mul_lt_mul_of_pos_right Nat.lt_log2_self hpos⟩

theorem log2_mul_one (hn : n ≠ 0) : Nat.log2 (n * one) = Nat.log2 n + 1074 := by
  unfold one
  generalize 1074 = k
  exact log2_mul_two_pow hn k

/-- An integer of at most 53 binary digits, zeros behind them apart, is not changed by rounding. -/
theorem units_roundDecimal (h : 2 ^ (Nat.log2 n - 52) ∣ n) (hn : Nat.log2 n < 1024) :
    units (roundDecimal n 0) = n * one := by
  rcases Nat.eq_zero_or_pos n with rfl | hpos
  · rw [roundDecimal_eq_zero (by simp), Nat.zero_mul]
    rfl
  · have hround : roundDecimal n 0 = roundUnits (n * one) 1 := by
      rw [roundDecimal_eq]
      simp
    have hlog := log2_mul_one hpos.ne'
    rw [hround, units_roundUnits _ (by omega)]
    have hshift : shiftOf (n * one) 1 ≤ Nat.log2 n - 52 + 1074 := by
      rw [shiftOf, Nat.div_one, hlog]
      omega
    refine (pow_dvd_pow 2 hshift).trans ?_
    rw [← two_pow_mul_one]
    exact Nat.mul_dvd_mul_right h one

/-! ## Cutting to an integer -/

/-- Larger magnitudes have larger integer parts. -/
theorem div_one_mono (h : m ≤ m') : units m / one ≤ units m' / one :=
  Nat.div_le_div_right (units_mono h)

/-- **Cutting keeps the order of numbers.** -/
theorem toInt64_mono {x y : Binary64} (h : x.rank ≤ y.rank) : x.toInt64 ≤ y.toInt64 := by
  obtain ⟨negative, m⟩ := x
  obtain ⟨negative', m'⟩ := y
  unfold rank at h
  unfold toInt64
  cases negative <;> cases negative' <;>
    simp only [if_true, if_false, Bool.false_eq_true] at h ⊢
  case false.false =>
    have := div_one_mono (Int.ofNat_le.mp h)
    omega
  case false.true =>
    -- Only the two zeros are left.
    obtain rfl : m = 0 := by omega
    obtain rfl : m' = 0 := by omega
    decide +kernel
  case true.false =>
    generalize units m / one = k
    generalize units m' / one = k'
    omega
  case true.true =>
    have := div_one_mono (Int.ofNat_le.mp (neg_le_neg_iff.mp h))
    omega

theorem pow_dvd_of_le {k : Nat} (h : k ≤ 2 ^ 53) : 2 ^ (Nat.log2 k - 52) ∣ k := by
  rcases Nat.lt_or_eq_of_le h with hlt | rfl
  · have hlog : Nat.log2 k ≤ 52 := by
      rcases Nat.eq_zero_or_pos k with rfl | hpos
      · decide
      · exact Nat.lt_succ_iff.mp ((Nat.log2_lt hpos.ne').mpr hlt)
    rw [Nat.sub_eq_zero_of_le hlog, Nat.pow_zero]
    exact Nat.one_dvd k
  · decide +kernel

/-- **Integers of 53 binary digits are kept**, by rounding and by cutting. -/
theorem toInt64_ofInt {z : ℤ} (h : z.natAbs ≤ 2 ^ 53) : (ofInt z).toInt64 = z := by
  have hlog : Nat.log2 z.natAbs < 1024 := by
    rw [Nat.log2_eq_log_two]
    exact (Nat.log_mono_right h).trans_lt (by rw [Nat.log_pow (by decide)]; decide)
  have hunits : units (roundDecimal z.natAbs 0) / one = z.natAbs := by
    rw [units_roundDecimal (pow_dvd_of_le h) hlog, Nat.mul_div_cancel _ one_pos]
  unfold toInt64 ofInt
  simp only [hunits, decide_eq_true_eq]
  omega

theorem rank_ofInt_mono {x y : ℤ} (h : x ≤ y) : (ofInt x).rank ≤ (ofInt y).rank := by
  have hround {j k : Nat} (h : j ≤ k) : roundDecimal j 0 ≤ roundDecimal k 0 :=
    roundDecimal_mono (by simpa using h)
  rcases Int.eq_nat_or_neg x with ⟨j, rfl | rfl⟩ <;>
    rcases Int.eq_nat_or_neg y with ⟨k, rfl | rfl⟩ <;>
    simp only [rank_ofInt_natCast, rank_ofInt_neg]
  · exact Int.ofNat_le.mpr (hround (Int.ofNat_le.mp h))
  · obtain rfl : j = 0 := by omega
    obtain rfl : k = 0 := by omega
    decide
  · omega
  · exact neg_le_neg (Int.ofNat_le.mpr (hround (Int.ofNat_le.mp (neg_le_neg_iff.mp h))))

/-! ## Integers that are rounded and cut -/

variable {n : Numeral} {z x : ℤ}

theorem toInt64_le_of_value (h : n.value = z) (hx : x.natAbs ≤ 2 ^ 53) (hle : z ≤ x) :
    (ofNumeral n).toInt64 ≤ x := by
  rw [← toInt64_ofInt hx]
  exact toInt64_mono ((rank_ofNumeral_of_value h).trans_le (rank_ofInt_mono hle))

theorem le_toInt64_of_value (h : n.value = z) (hx : x.natAbs ≤ 2 ^ 53) (hle : x ≤ z) :
    x ≤ (ofNumeral n).toInt64 := by
  rw [← toInt64_ofInt hx]
  exact toInt64_mono ((rank_ofInt_mono hle).trans_eq (rank_ofNumeral_of_value h).symm)

/-- **An integer, rounded and cut, compares as the integer** with the numbers below 2⁵³, in whatever
notation it is and however large. -/
theorem compare_toInt64 (h : n.value = z) (hx : x.natAbs < 2 ^ 53) :
    compare x (ofNumeral n).toInt64 = compare x z := by
  rcases lt_trichotomy x z with hlt | rfl | hlt
  · have hle := le_toInt64_of_value h (x := x + 1) (by omega) (by omega)
    rw [compare_lt_iff_lt.mpr hlt, compare_lt_iff_lt]
    omega
  · have heq := le_antisymm (le_toInt64_of_value h hx.le le_rfl) (toInt64_le_of_value h hx.le le_rfl)
    rw [← heq]
  · have hle := toInt64_le_of_value h (x := x - 1) (by omega) (by omega)
    rw [compare_gt_iff_gt.mpr hlt, compare_gt_iff_gt]
    omega

end WebForm.Binary64
