import Mathlib.Algebra.Order.Field.Basic
import Mathlib.Data.Rat.Cast.Defs
import WebForm.Numeral
import WebForm.Text.Character

/-!
# What numerals are, and what they denote

The grammar of numerals, without the functions that read one part after the other:

    padding? sign? digits? ('.' digits?)? (('e' | 'E') sign? digits)? padding?

with at least one digit before or behind the point. Nothing is ambiguous: no part can start with a
character that the part before it could go on with.

* `Spells s n`: the text is spelled from the parts of the numeral.
* `Denotes s x`: the text is a numeral for the rational number `x`, exactly.
* `SpellsInteger s z`: the text is the integer `z` in digits, without a point or an exponent.

Results:
* `spells_iff`: reading a text gives the numeral that it spells, and fails where it spells none.
* `isBlank_of_spells`: no numeral is blank.
* `spellsInteger_iff`: the integers in digits are the numerals of digits alone.
-/

namespace WebForm.Numeral

variable {s : String} {cs rest : List Char} {n : Numeral}

/-- Nothing but decimal digits. -/
def AllDigits (cs : List Char) : Prop := ∀ c ∈ cs, c.isDigit = true

/-- Nothing but white space of numerals. -/
def AllPadding (cs : List Char) : Prop := ∀ c ∈ cs, isPadding c = true

/-- An optional sign, and whether it is a minus. -/
inductive SpellsSign : List Char → Bool → Prop
  | absent : SpellsSign [] false
  | plus : SpellsSign ['+'] false
  | minus : SpellsSign ['-'] true

/-- An optional fraction, and its digits. -/
inductive SpellsFraction : List Char → Option (List Char) → Prop
  | absent : SpellsFraction [] none
  | point {digits : List Char} (h : AllDigits digits) :
    SpellsFraction ('.' :: digits) (some digits)

/-- An optional exponent, and the power of ten that it stands for. -/
inductive SpellsExponent : List Char → Option Int → Prop
  | absent : SpellsExponent [] none
  | power {e : Char} {sign digits : List Char} {negative : Bool} (he : e = 'e' ∨ e = 'E')
    (hsign : SpellsSign sign negative) (hne : digits ≠ []) (hdigits : AllDigits digits) :
    SpellsExponent (e :: (sign ++ digits))
      (some (if negative then -(natOfDigits digits : Int) else natOfDigits digits))

/-- The numeral that a text without white space around it stands for: a sign, digits, a fraction and
an exponent, with at least one digit before or behind the point. -/
inductive SpellsBare : List Char → Numeral → Prop
  | parts {sign whole fractionText exponentText : List Char} {negative : Bool}
    {fraction : Option (List Char)} {exponent : Option Int} (hsign : SpellsSign sign negative)
    (hwhole : AllDigits whole) (hfraction : SpellsFraction fractionText fraction)
    (hexponent : SpellsExponent exponentText exponent)
    (hne : whole ++ fraction.getD [] ≠ []) :
    SpellsBare (sign ++ (whole ++ (fractionText ++ exponentText)))
      ⟨negative, whole, fraction, exponent⟩

/-- The numeral that a text stands for: white space may stand on either side. -/
def Spells (s : String) (n : Numeral) : Prop :=
  ∃ front bare back, s.toList = front ++ (bare ++ back) ∧ AllPadding front ∧ AllPadding back ∧
    SpellsBare bare n

/-! ## Reading part by part -/

theorem toNat_of_isDigit {c : Char} (h : c.isDigit = true) : 48 ≤ c.toNat ∧ c.toNat ≤ 57 := by
  simp only [Char.isDigit, Bool.and_eq_true, decide_eq_true_eq, ge_iff_le,
    UInt32.le_iff_toNat_le] at h
  exact h

theorem readSign_append {sign : List Char} {negative : Bool} (h : SpellsSign sign negative)
    (hrest : ∀ c ∈ rest.head?, c ≠ '+' ∧ c ≠ '-') : readSign (sign ++ rest) = (negative, rest) := by
  cases h with
  | absent =>
    cases rest with
    | nil => rfl
    | cons c rest =>
      obtain ⟨hplus, hminus⟩ := hrest c rfl
      rw [List.nil_append, readSign]
      · exact fun _ h => hplus (List.cons.inj h).1
      · exact fun _ h => hminus (List.cons.inj h).1
  | plus => rfl
  | minus => rfl

theorem exists_readSign (cs : List Char) :
    ∃ sign, cs = sign ++ (readSign cs).2 ∧ SpellsSign sign (readSign cs).1 := by
  unfold readSign
  split
  · exact ⟨['+'], rfl, .plus⟩
  · exact ⟨['-'], rfl, .minus⟩
  · exact ⟨[], rfl, .absent⟩

theorem readDigits_append {digits : List Char} (h : AllDigits digits)
    (hrest : ∀ c ∈ rest.head?, c.isDigit = false) :
    readDigits (digits ++ rest) = (digits, rest) := by
  have hstop : rest.takeWhile Char.isDigit = [] ∧ rest.dropWhile Char.isDigit = rest := by
    cases rest with
    | nil => exact ⟨rfl, rfl⟩
    | cons c rest => simp [hrest c rfl]
  rw [readDigits, List.takeWhile_append_of_pos h, List.dropWhile_append_of_pos h, hstop.1, hstop.2,
    List.append_nil]

theorem readDigits_eq (cs : List Char) :
    cs = (readDigits cs).1 ++ (readDigits cs).2 ∧ AllDigits (readDigits cs).1 :=
  ⟨List.takeWhile_append_dropWhile.symm, List.all_eq_true.mp List.all_takeWhile⟩

theorem readFraction_append {text : List Char} {fraction : Option (List Char)}
    (h : SpellsFraction text fraction) (hrest : ∀ c ∈ rest.head?, c ≠ '.' ∧ c.isDigit = false) :
    readFraction (text ++ rest) = (fraction, rest) := by
  cases h with
  | absent =>
    cases rest with
    | nil => rfl
    | cons c rest =>
      rw [List.nil_append, readFraction]
      exact fun _ h => (hrest c rfl).1 (List.cons.inj h).1
  | point h =>
    rw [List.cons_append, readFraction, readDigits_append h fun c hc => (hrest c hc).2]

theorem exists_readFraction (cs : List Char) :
    ∃ text, cs = text ++ (readFraction cs).2 ∧ SpellsFraction text (readFraction cs).1 := by
  unfold readFraction
  split
  next cs =>
    obtain ⟨heq, hdigits⟩ := readDigits_eq cs
    exact ⟨'.' :: (readDigits cs).1, congrArg _ heq, .point hdigits⟩
  · exact ⟨[], rfl, .absent⟩

theorem all_isDigit_iff : cs.all Char.isDigit = true ↔ AllDigits cs := List.all_eq_true

theorem head?_of_allDigits (h : AllDigits cs) {c : Char} (hc : c ∈ cs.head?) :
    c.isDigit = true := h c (List.mem_of_mem_head? hc)

theorem ne_sign_of_isDigit {c : Char} (h : c.isDigit = true) : c ≠ '+' ∧ c ≠ '-' := by
  constructor <;> rintro rfl <;> exact absurd h (by decide)

theorem readExponent?_eq_some_iff {exponent : Option Int} :
    readExponent? cs = some exponent ↔ SpellsExponent cs exponent := by
  constructor
  · intro h
    cases cs with
    | nil =>
      obtain rfl := Option.some.inj h
      exact .absent
    | cons e cs =>
      obtain ⟨sign, hcs, hsign⟩ := exists_readSign cs
      simp only [readExponent?, Option.ite_none_right_eq_some, Option.ite_none_left_eq_some,
        Bool.or_eq_true, List.isEmpty_iff, Bool.not_eq_true', not_or, Bool.not_eq_false,
        Option.some.injEq] at h
      obtain ⟨he, ⟨hne, hdigits⟩, rfl⟩ := h
      conv => arg 1; rw [hcs]
      exact .power he hsign hne (all_isDigit_iff.mp hdigits)
  · rintro (_ | ⟨he, hsign, hne, hdigits⟩)
    · rfl
    · have hread := readSign_append hsign fun c hc =>
        ne_sign_of_isDigit (head?_of_allDigits hdigits hc)
      simp [readExponent?, he, hread, hne, all_isDigit_iff.mpr hdigits]

/-! ## Reading the whole -/

theorem head?_of_spellsExponent {text : List Char} {exponent : Option Int}
    (h : SpellsExponent text exponent) {c : Char} (hc : c ∈ text.head?) :
    c ≠ '.' ∧ c.isDigit = false := by
  cases h with
  | absent => cases hc
  | power he =>
    obtain rfl := Option.some.inj hc
    rcases he with rfl | rfl <;> decide

theorem head?_of_spellsFraction {text rest : List Char} {fraction : Option (List Char)}
    (h : SpellsFraction text fraction) (hrest : ∀ c ∈ rest.head?, c.isDigit = false) {c : Char}
    (hc : c ∈ (text ++ rest).head?) : c.isDigit = false := by
  cases h with
  | absent => exact hrest c hc
  | point =>
    obtain rfl := Option.some.inj hc
    decide

/-- What follows the sign starts with a digit or the point. -/
theorem head?_of_unsigned {whole text rest : List Char} {fraction : Option (List Char)}
    (hwhole : AllDigits whole) (hfraction : SpellsFraction text fraction)
    (hne : whole ++ fraction.getD [] ≠ []) {c : Char} (hc : c ∈ (whole ++ (text ++ rest)).head?) :
    c ≠ '+' ∧ c ≠ '-' := by
  cases whole with
  | cons d whole =>
    obtain rfl := Option.some.inj hc
    exact ne_sign_of_isDigit (hwhole d List.mem_cons_self)
  | nil =>
    cases hfraction with
    | absent => exact absurd rfl hne
    | point =>
      obtain rfl := Option.some.inj hc
      decide

/-- Reading gives what the text is spelled from. -/
theorem parseBare?_eq_some_iff : parseBare? cs = some n ↔ SpellsBare cs n := by
  constructor
  · intro h
    obtain ⟨sign, hcs, hsign⟩ := exists_readSign cs
    obtain ⟨hunsigned, hwhole⟩ := readDigits_eq (readSign cs).2
    obtain ⟨text, hrest, hfraction⟩ := exists_readFraction (readDigits (readSign cs).2).2
    simp only [parseBare?, Option.ite_none_left_eq_some, Bool.and_eq_true, List.isEmpty_iff,
      ← List.append_eq_nil_iff, Option.map_eq_some_iff] at h
    obtain ⟨hne, exponent, hexponent, rfl⟩ := h
    conv => arg 1; rw [hcs, hunsigned, hrest]
    exact .parts hsign hwhole hfraction (readExponent?_eq_some_iff.mp hexponent) hne
  · rintro ⟨hsign, hwhole, hfraction, hexponent, hne⟩
    have hdigit := fun c hc => (head?_of_spellsExponent hexponent (c := c) hc).2
    unfold parseBare?
    rw [readSign_append hsign fun c hc => head?_of_unsigned hwhole hfraction hne hc]
    dsimp only
    rw [readDigits_append hwhole fun c hc => head?_of_spellsFraction hfraction hdigit hc]
    dsimp only
    rw [readFraction_append hfraction fun c hc => head?_of_spellsExponent hexponent hc]
    dsimp only
    rw [readExponent?_eq_some_iff.mpr hexponent, if_neg, Option.map_some]
    simpa using hne

/-! ## White space on either side -/

/-- What numerals are written with: digits, signs, the point and the letter of an exponent. -/
def IsNumeralChar (c : Char) : Prop := c.isDigit = true ∨ c ∈ ['+', '-', '.', 'e', 'E']

theorem isNumeralChar_of_spellsSign {sign : List Char} {negative : Bool}
    (h : SpellsSign sign negative) {c : Char} (hc : c ∈ sign) : IsNumeralChar c := by
  refine Or.inr ?_
  cases h with
  | absent => cases hc
  | plus => obtain rfl := List.mem_singleton.mp hc; decide
  | minus => obtain rfl := List.mem_singleton.mp hc; decide

theorem isNumeralChar_of_spellsBare (h : SpellsBare cs n) {c : Char} (hc : c ∈ cs) :
    IsNumeralChar c := by
  obtain ⟨hsign, hwhole, hfraction, hexponent, -⟩ := h
  rcases List.mem_append.mp hc with hc | hc
  · exact isNumeralChar_of_spellsSign hsign hc
  rcases List.mem_append.mp hc with hc | hc
  · exact Or.inl (hwhole c hc)
  rcases List.mem_append.mp hc with hc | hc
  · cases hfraction with
    | absent => cases hc
    | point hdigits =>
      rcases List.mem_cons.mp hc with rfl | hc
      · exact Or.inr (by decide)
      · exact Or.inl (hdigits c hc)
  · cases hexponent with
    | absent => cases hc
    | power he hsign hne hdigits =>
      rcases List.mem_cons.mp hc with rfl | hc
      · exact Or.inr (by rcases he with rfl | rfl <;> decide)
      rcases List.mem_append.mp hc with hc | hc
      · exact isNumeralChar_of_spellsSign hsign hc
      · exact Or.inl (hdigits c hc)

theorem isBlankChar_of_isDigit {c : Char} (h : c.isDigit = true) :
    Text.isBlankChar c = false := by
  obtain ⟨hlow, hhigh⟩ := toNat_of_isDigit h
  simp only [Text.isBlankChar, Bool.or_eq_false_iff, Bool.and_eq_false_iff,
    decide_eq_false_iff_not, beq_eq_false_iff_ne]
  omega

theorem isBlankChar_of_isNumeralChar {c : Char} (h : IsNumeralChar c) :
    Text.isBlankChar c = false := by
  rcases h with h | h
  · exact isBlankChar_of_isDigit h
  · simp only [List.mem_cons, List.not_mem_nil, or_false] at h
    obtain rfl | rfl | rfl | rfl | rfl := h <;> decide

/-- The white space of numerals is white space of text. -/
theorem isBlankChar_of_isPadding {c : Char} (h : isPadding c = true) :
    Text.isBlankChar c = true := by
  simp only [isPadding, Bool.or_eq_true] at h
  simp only [Text.isBlankChar, Bool.or_eq_true]
  tauto

/-- No white space is a part of what it surrounds. -/
theorem isPadding_of_isNumeralChar {c : Char} (h : IsNumeralChar c) : isPadding c = false := by
  rw [Bool.eq_false_iff]
  exact fun hpadding => absurd (isBlankChar_of_isPadding hpadding)
    (by simp [isBlankChar_of_isNumeralChar h])

section Strip

variable {p : Char → Bool}

theorem dropWhile_append_of_head? {front : List Char} (hfront : ∀ c ∈ front, p c = true)
    (hrest : ∀ c ∈ rest.head?, p c = false) : (front ++ rest).dropWhile p = rest := by
  rw [List.dropWhile_append_of_pos hfront]
  cases rest with
  | nil => rfl
  | cons c rest => rw [List.dropWhile_cons_of_neg (by simp [hrest c rfl])]

/-- What is on either side is taken off, and nothing else. -/
theorem strip_append {front bare back : List Char} (hfront : ∀ c ∈ front, p c = true)
    (hback : ∀ c ∈ back, p c = true) (hne : bare ≠ []) (hbare : ∀ c ∈ bare, p c = false) :
    (((front ++ (bare ++ back)).dropWhile p).reverse.dropWhile p).reverse = bare := by
  have hleft : (front ++ (bare ++ back)).dropWhile p = bare ++ back := by
    apply dropWhile_append_of_head? hfront
    intro c hc
    rw [List.head?_append, List.head?_eq_some_head hne, Option.some_or] at hc
    obtain rfl := Option.some.inj hc
    exact hbare _ (List.head_mem hne)
  have hright : (back.reverse ++ bare.reverse).dropWhile p = bare.reverse := by
    apply dropWhile_append_of_head? fun c hc => hback c (List.mem_reverse.mp hc)
    exact fun c hc => hbare c (List.mem_reverse.mp (List.mem_of_mem_head? hc))
  rw [hleft, List.reverse_append, hright, List.reverse_reverse]

end Strip

theorem exists_unpad (cs : List Char) :
    ∃ front back, cs = front ++ (unpad cs ++ back) ∧ AllPadding front ∧ AllPadding back := by
  refine ⟨cs.takeWhile isPadding,
    ((cs.dropWhile isPadding).reverse.takeWhile isPadding).reverse, ?_, ?_, fun c hc => ?_⟩
  · rw [unpad, ← List.reverse_append, List.takeWhile_append_dropWhile, List.reverse_reverse,
      List.takeWhile_append_dropWhile]
  · exact List.all_eq_true.mp List.all_takeWhile
  · exact List.all_eq_true.mp List.all_takeWhile c (List.mem_reverse.mp hc)

theorem ne_nil_of_spellsBare (h : SpellsBare cs n) : cs ≠ [] := by
  obtain ⟨hsign, hwhole, hfraction, hexponent, hne⟩ := h
  cases hfraction with
  | absent => simp_all
  | point => simp

/-- **Reading a text gives the numeral that it spells**, and fails where it spells none. -/
theorem spells_iff : Spells s n ↔ parse? s = some n := by
  constructor
  · rintro ⟨front, bare, back, hs, hfront, hback, hbare⟩
    have hunpad : unpad s.toList = bare := by
      rw [unpad, hs, strip_append hfront hback (ne_nil_of_spellsBare hbare)]
      exact fun c hc => isPadding_of_isNumeralChar (isNumeralChar_of_spellsBare hbare hc)
    rw [parse?, hunpad]
    exact parseBare?_eq_some_iff.mpr hbare
  · intro h
    obtain ⟨front, back, hs, hfront, hback⟩ := exists_unpad s.toList
    exact ⟨front, _, back, hs, hfront, hback, parseBare?_eq_some_iff.mp h⟩

theorem exists_digit_of_spellsBare (h : SpellsBare cs n) : ∃ c ∈ cs, c.isDigit = true := by
  obtain ⟨hsign, hwhole, hfraction, hexponent, hne⟩ := h
  obtain ⟨c, hc⟩ := List.exists_mem_of_ne_nil _ hne
  rcases List.mem_append.mp hc with hc | hc
  · exact ⟨c, by simp [hc], hwhole c hc⟩
  · cases hfraction with
    | absent => cases hc
    | point hdigits => exact ⟨c, by simp_all, hdigits c hc⟩

/-- A numeral is not blank: it has a digit. -/
theorem isBlank_of_spells (h : Spells s n) : Text.isBlank s = false := by
  obtain ⟨front, bare, back, hs, -, -, hbare⟩ := h
  obtain ⟨c, hc, hdigit⟩ := exists_digit_of_spellsBare hbare
  rw [Text.isBlank, List.all_eq_false]
  exact ⟨c, by simp [hs, hc], by simp [isBlankChar_of_isDigit hdigit]⟩

/-! ## Numbers -/

/-- The number that the digits of a numeral denote, without the sign. -/
def absolute (n : Numeral) : ℚ := n.coefficient * 10 ^ n.scale

/-- The number that a numeral denotes. -/
def value (n : Numeral) : ℚ := if n.negative then -n.absolute else n.absolute

/-- The text is a numeral for the number. -/
def Denotes (s : String) (x : ℚ) : Prop := ∃ n, Spells s n ∧ n.value = x

/-- The text is the integer in digits: an optional sign and at least one digit, with white space on
either side. -/
def SpellsInteger (s : String) (z : ℤ) : Prop :=
  ∃ front sign digits back negative, s.toList = front ++ (sign ++ digits ++ back) ∧
    AllPadding front ∧ AllPadding back ∧ SpellsSign sign negative ∧ AllDigits digits ∧
    digits ≠ [] ∧ z = if negative then -(natOfDigits digits : ℤ) else natOfDigits digits

theorem integer?_eq_some_iff {z : ℤ} : n.integer? = some z ↔
    n.fraction = none ∧ n.exponent = none ∧
      z = if n.negative then -(natOfDigits n.whole : ℤ) else natOfDigits n.whole := by
  obtain ⟨negative, whole, _ | fraction, _ | exponent⟩ := n <;>
    simp [integer?, isInteger, coefficient, eq_comm]

theorem value_of_integer? {z : ℤ} (h : n.integer? = some z) : n.value = z := by
  obtain ⟨hfraction, hexponent, rfl⟩ := integer?_eq_some_iff.mp h
  have habsolute : n.absolute = natOfDigits n.whole := by
    simp [absolute, coefficient, scale, hfraction, hexponent]
  rw [value, habsolute]
  split <;> simp

/-- The integers in digits are the numerals of digits alone. -/
theorem spellsInteger_iff {z : ℤ} :
    SpellsInteger s z ↔ ∃ n, parse? s = some n ∧ n.integer? = some z := by
  constructor
  · rintro ⟨front, sign, digits, back, negative, hs, hfront, hback, hsign, hdigits, hne, hz⟩
    refine ⟨⟨negative, digits, none, none⟩, spells_iff.mp ⟨front, _, back, hs, hfront, hback, ?_⟩,
      integer?_eq_some_iff.mpr ⟨rfl, rfl, hz⟩⟩
    have hbare : SpellsBare (sign ++ (digits ++ ([] ++ []))) ⟨negative, digits, none, none⟩ :=
      .parts hsign hdigits .absent .absent (by simpa using hne)
    simpa using hbare
  · rintro ⟨n, hn, hz⟩
    obtain ⟨front, bare, back, hs, hfront, hback, hbare⟩ := spells_iff.mpr hn
    obtain ⟨hsign, hwhole, hfraction, hexponent, hne⟩ := hbare
    obtain ⟨rfl, rfl, hz⟩ := integer?_eq_some_iff.mp hz
    cases hfraction
    cases hexponent
    exact ⟨front, _, _, back, _, by simpa using hs, hfront, hback, hsign, hwhole,
      by simpa using hne, hz⟩

end WebForm.Numeral
