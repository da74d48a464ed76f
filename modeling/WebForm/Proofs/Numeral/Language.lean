import Mathlib.Computability.Language
import Mathlib.Tactic.IntervalCases
import WebForm.Proofs.Numeral.Reading
import WebForm.Proofs.Numeral.Rounding

/-!
# The language of numerals

Numerals are a regular language over Unicode characters, put together from a few classes of ASCII
characters by choice, sequence and repetition:

    space* sign? (digit+ ('.' digit*)? | '.' digit+) (('e' | 'E') sign? digit+)? space*

Recognising a numeral is membership in this language, every text of it can be read as a number, and
nothing else can. Which number of the format that is depends only on the number that the text
denotes, and not on how it is written.

* `language`: the language, from its parts.
* `mantissa`, `power`: digits with a point at most, and the exponent.

Results:
* `mem_kstar_oneOf`: repeating a class of characters gives the texts that hold no others.
* `mem_mantissa_iff`, `mem_power_iff`: the parts are what the grammar of numerals has in their
  place.
* `mem_language_iff`: the language is that of the texts that spell a numeral.
* `recognised_and_read`: what is recognised, what is read, and what it is read as.
-/

open scoped Computability

namespace WebForm

namespace Numeral

variable {s t : String} {w : List Char}

/-! ## The language -/

/-- The texts of one character, of those given. -/
def oneOf (chars : List Char) : Language Char := {w | ∃ c ∈ chars, w = [c]}

/-- Tab, line feed, vertical tab, form feed, carriage return and space. -/
def space : Language Char := oneOf ['\t', '\n', '\x0b', '\x0c', '\r', ' ']

/-- The ten decimal digits of ASCII. -/
def digit : Language Char := oneOf ['0', '1', '2', '3', '4', '5', '6', '7', '8', '9']

/-- A plus or a minus, or nothing. -/
def sign : Language Char := 1 + oneOf ['+', '-']

/-- Digits that may have a point and more digits behind them, or a point and digits. -/
def mantissa : Language Char :=
  digit * digit∗ * (1 + oneOf ['.'] * digit∗) + oneOf ['.'] * (digit * digit∗)

/-- An exponent, or nothing. -/
def power : Language Char := 1 + oneOf ['e', 'E'] * (sign * (digit * digit∗))

/-- The texts that are numerals. -/
def language : Language Char := space∗ * (sign * (mantissa * power) * space∗)

/-! ## Classes of characters -/

theorem mem_oneOf {chars : List Char} : w ∈ oneOf chars ↔ ∃ c ∈ chars, w = [c] := Iff.rfl

/-- Repeating a class of characters gives the texts that hold no others. -/
theorem mem_kstar_oneOf {chars : List Char} : w ∈ (oneOf chars)∗ ↔ ∀ c ∈ w, c ∈ chars := by
  rw [Language.mem_kstar]
  constructor
  · rintro ⟨parts, rfl, hparts⟩ c hc
    obtain ⟨part, hpart, hc⟩ := List.mem_flatten.mp hc
    obtain ⟨d, hd, rfl⟩ := hparts part hpart
    exact List.mem_singleton.mp hc ▸ hd
  · intro h
    refine ⟨w.map fun c => [c], (List.flatMap_singleton' w).symm, fun part hpart => ?_⟩
    obtain ⟨c, hc, rfl⟩ := List.mem_map.mp hpart
    exact ⟨c, h c hc, rfl⟩

theorem mem_spaces_iff : w ∈ space∗ ↔ AllPadding w := by
  refine mem_kstar_oneOf.trans (forall₂_congr fun c _ => ?_)
  constructor
  · intro h
    simp only [List.mem_cons, List.not_mem_nil, or_false] at h
    obtain rfl | rfl | rfl | rfl | rfl | rfl := h <;> rfl
  · intro h
    simp only [isPadding, Bool.or_eq_true, Bool.and_eq_true, decide_eq_true_eq, beq_iff_eq] at h
    rw [← Char.ofNat_toNat c]
    obtain ⟨hlow, hhigh⟩ | h := h
    · interval_cases c.toNat <;> decide
    · rw [h]
      decide

theorem isDigit_iff_mem (c : Char) : c.isDigit = true ↔
    c ∈ ['0', '1', '2', '3', '4', '5', '6', '7', '8', '9'] := by
  constructor
  · intro h
    obtain ⟨hlow, hhigh⟩ := toNat_of_isDigit h
    rw [← Char.ofNat_toNat c]
    interval_cases c.toNat <;> decide
  · intro h
    exact List.all_eq_true.mp (by decide) c h

theorem mem_digits_iff : w ∈ digit∗ ↔ AllDigits w :=
  mem_kstar_oneOf.trans (forall₂_congr fun c _ => (isDigit_iff_mem c).symm)

/-- At least one digit. -/
theorem mem_digit_mul_digits_iff : w ∈ digit * digit∗ ↔ w ≠ [] ∧ AllDigits w := by
  rw [Language.mem_mul]
  constructor
  · rintro ⟨-, ⟨c, hc, rfl⟩, rest, hrest, rfl⟩
    refine ⟨List.cons_ne_nil c rest, fun d hd => ?_⟩
    rcases List.mem_cons.mp hd with rfl | hd
    · exact (isDigit_iff_mem d).mpr hc
    · exact mem_digits_iff.mp hrest d hd
  · rintro ⟨hne, hdigits⟩
    obtain ⟨c, rest, rfl⟩ := List.exists_cons_of_ne_nil hne
    exact ⟨[c], ⟨c, (isDigit_iff_mem c).mp (hdigits c List.mem_cons_self), rfl⟩, rest,
      mem_digits_iff.mpr fun d hd => hdigits d (List.mem_cons_of_mem c hd), rfl⟩

/-! ## Parts -/

theorem mem_sign_iff : w ∈ sign ↔ ∃ negative, SpellsSign w negative := by
  rw [sign, Language.mem_add, Language.mem_one, mem_oneOf]
  constructor
  · rintro (rfl | ⟨c, hc, rfl⟩)
    · exact ⟨_, .absent⟩
    · simp only [List.mem_cons, List.not_mem_nil, or_false] at hc
      rcases hc with rfl | rfl
      · exact ⟨_, .plus⟩
      · exact ⟨_, .minus⟩
  · rintro ⟨negative, _ | _ | _⟩
    · exact Or.inl rfl
    · exact Or.inr ⟨'+', by decide, rfl⟩
    · exact Or.inr ⟨'-', by decide, rfl⟩

/-- A point, and what a language has behind it. -/
theorem mem_point_mul_iff {l : Language Char} :
    w ∈ oneOf ['.'] * l ↔ ∃ digits ∈ l, w = '.' :: digits := by
  rw [Language.mem_mul]
  constructor
  · rintro ⟨-, ⟨c, hc, rfl⟩, digits, hdigits, rfl⟩
    obtain rfl := List.mem_singleton.mp hc
    exact ⟨digits, hdigits, rfl⟩
  · rintro ⟨digits, hdigits, rfl⟩
    exact ⟨['.'], ⟨'.', List.mem_singleton_self _, rfl⟩, digits, hdigits, rfl⟩

/-- A mantissa is digits and a fraction, with at least one digit in the two. -/
theorem mem_mantissa_iff : w ∈ mantissa ↔ ∃ whole text fraction, w = whole ++ text ∧
    AllDigits whole ∧ SpellsFraction text fraction ∧ whole ++ fraction.getD [] ≠ [] := by
  rw [mantissa, Language.mem_add, mem_point_mul_iff, Language.mem_mul]
  constructor
  · rintro (⟨whole, hwhole, text, htext, rfl⟩ | ⟨digits, hdigits, rfl⟩)
    · obtain ⟨hne, hwhole⟩ := mem_digit_mul_digits_iff.mp hwhole
      have hsome (digits : List Char) : whole ++ digits ≠ [] :=
        List.append_ne_nil_of_left_ne_nil hne digits
      rw [Language.mem_add, Language.mem_one, mem_point_mul_iff] at htext
      rcases htext with rfl | ⟨digits, hdigits, rfl⟩
      · exact ⟨whole, _, _, rfl, hwhole, .absent, hsome _⟩
      · exact ⟨whole, _, _, rfl, hwhole, .point (mem_digits_iff.mp hdigits), hsome _⟩
    · obtain ⟨hne, hdigits⟩ := mem_digit_mul_digits_iff.mp hdigits
      exact ⟨[], _, _, rfl, fun c hc => absurd hc List.not_mem_nil, .point hdigits, hne⟩
  · rintro ⟨whole, text, fraction, rfl, hwhole, hfraction, hne⟩
    rcases eq_or_ne whole [] with rfl | hwhole'
    · cases hfraction with
      | absent => exact absurd rfl hne
      | point hdigits => exact Or.inr ⟨_, mem_digit_mul_digits_iff.mpr ⟨hne, hdigits⟩, rfl⟩
    · refine Or.inl ⟨whole, mem_digit_mul_digits_iff.mpr ⟨hwhole', hwhole⟩, text, ?_, rfl⟩
      rw [Language.mem_add, Language.mem_one, mem_point_mul_iff]
      cases hfraction with
      | absent => exact Or.inl rfl
      | point hdigits => exact Or.inr ⟨_, mem_digits_iff.mpr hdigits, rfl⟩

theorem mem_power_iff : w ∈ power ↔ ∃ exponent, SpellsExponent w exponent := by
  rw [power, Language.mem_add, Language.mem_one, Language.mem_mul]
  constructor
  · rintro (rfl | ⟨-, ⟨e, he, rfl⟩, _, hrest, rfl⟩)
    · exact ⟨_, .absent⟩
    · obtain ⟨signText, hsign, digits, hdigits, rfl⟩ := Language.mem_mul.mp hrest
      obtain ⟨negative, hsign⟩ := mem_sign_iff.mp hsign
      obtain ⟨hne, hdigits⟩ := mem_digit_mul_digits_iff.mp hdigits
      show ∃ exponent, SpellsExponent (e :: (signText ++ digits)) exponent
      exact ⟨_, .power (by simpa using he) hsign hne hdigits⟩
  · rintro ⟨exponent, _ | ⟨he, hsign, hne, hdigits⟩⟩
    · exact Or.inl rfl
    · exact Or.inr ⟨[_], ⟨_, by simpa using he, rfl⟩, _, Language.append_mem_mul
        (mem_sign_iff.mpr ⟨_, hsign⟩) (mem_digit_mul_digits_iff.mpr ⟨hne, hdigits⟩), rfl⟩

/-! ## The whole -/

theorem mem_bare_iff : w ∈ sign * (mantissa * power) ↔ ∃ n, SpellsBare w n := by
  rw [Language.mem_mul]
  constructor
  · rintro ⟨signText, hsign, _, hrest, rfl⟩
    obtain ⟨_, hmantissa, exponentText, hpower, rfl⟩ := Language.mem_mul.mp hrest
    obtain ⟨negative, hsign⟩ := mem_sign_iff.mp hsign
    obtain ⟨whole, text, fraction, rfl, hwhole, hfraction, hne⟩ := mem_mantissa_iff.mp hmantissa
    obtain ⟨exponent, hexponent⟩ := mem_power_iff.mp hpower
    rw [List.append_assoc]
    exact ⟨_, .parts hsign hwhole hfraction hexponent hne⟩
  · rintro ⟨n, @⟨signText, whole, text, exponentText, _, _, _, hsign, hwhole, hfraction, hexponent,
      hne⟩⟩
    have hmantissa : whole ++ text ∈ mantissa :=
      mem_mantissa_iff.mpr ⟨_, _, _, rfl, hwhole, hfraction, hne⟩
    refine ⟨signText, mem_sign_iff.mpr ⟨_, hsign⟩, whole ++ text ++ exponentText,
      Language.append_mem_mul hmantissa (mem_power_iff.mpr ⟨_, hexponent⟩), ?_⟩
    rw [List.append_assoc]

/-- **The language of numerals** is that of the texts that spell one. -/
theorem mem_language_iff : s.toList ∈ language ↔ ∃ n, Spells s n := by
  rw [language, Language.mem_mul]
  constructor
  · rintro ⟨front, hfront, _, hrest, hs⟩
    obtain ⟨bare, hbare, back, hback, rfl⟩ := Language.mem_mul.mp hrest
    obtain ⟨n, hbare⟩ := mem_bare_iff.mp hbare
    exact ⟨n, front, bare, back, hs.symm, mem_spaces_iff.mp hfront, mem_spaces_iff.mp hback, hbare⟩
  · rintro ⟨n, front, bare, back, hs, hfront, hback, hbare⟩
    exact ⟨front, mem_spaces_iff.mpr hfront, bare ++ back, Language.append_mem_mul
      (mem_bare_iff.mpr ⟨n, hbare⟩) (mem_spaces_iff.mpr hback), hs.symm⟩

theorem isNumeral_iff : isNumeral s = true ↔ ∃ n, Spells s n := by
  simp only [isNumeral, Option.isSome_iff_exists, spells_iff]

/-! ## The number of a text -/

/-- Numbers of the format are equal as numbers when they are one, or both zeros. -/
theorem rank_eq_rank_iff {x y : Binary64} :
    x.rank = y.rank ↔ x = y ∨ (x.magnitude = 0 ∧ y.magnitude = 0) := by
  obtain ⟨negative, magnitude⟩ := x
  obtain ⟨negative', magnitude'⟩ := y
  cases negative <;> cases negative' <;> simp [Binary64.rank] <;> omega

/-- **What is recognised, what is read, and what it is read as.** A text is recognised as a numeral
iff it is in the language of numerals, and has a number iff it is recognised; and texts that denote
one number, in whatever notation, have one number of the format, if not the two zeros. -/
theorem recognised_and_read :
    (∀ s : String, (isNumeral s = true ↔ s.toList ∈ language) ∧
      ((number? s).isSome = true ↔ isNumeral s = true)) ∧
    ∀ (s t : String) (x : ℚ), Denotes s x → Denotes t x →
      ∃ a b, number? s = some a ∧ number? t = some b ∧
        (a = b ∨ (a.magnitude = 0 ∧ b.magnitude = 0)) := by
  constructor
  · intro s
    exact ⟨isNumeral_iff.trans mem_language_iff.symm, by rw [number?_eq, Option.isSome_map]; rfl⟩
  · rintro s t x ⟨m, hm, hx⟩ ⟨n, hn, rfl⟩
    refine ⟨Binary64.ofNumeral m, Binary64.ofNumeral n, ?_, ?_, rank_eq_rank_iff.mp ?_⟩
    · rw [number?_eq, spells_iff.mp hm, Option.map_some]
    · rw [number?_eq, spells_iff.mp hn, Option.map_some]
    · exact le_antisymm (Binary64.rank_ofNumeral_mono hx.le) (Binary64.rank_ofNumeral_mono hx.ge)

/-- One number with white space, a plus and zeros on both sides, and in powers of ten. -/
theorem recognised_and_read_notations :
    Denotes "\t+0180.50 " (361 / 2) ∧ Denotes ".001805E+05" (361 / 2) ∧
      ∃ a b, number? "\t+0180.50 " = some a ∧ number? ".001805E+05" = some b ∧
        (a = b ∨ (a.magnitude = 0 ∧ b.magnitude = 0)) := by
  have hs : Denotes "\t+0180.50 " (361 / 2) :=
    ⟨⟨false, "0180".toList, some "50".toList, none⟩, spells_iff.mpr (by decide +kernel),
      by decide +kernel⟩
  have ht : Denotes ".001805E+05" (361 / 2) :=
    ⟨⟨false, [], some "001805".toList, some 5⟩, spells_iff.mpr (by decide +kernel),
      by decide +kernel⟩
  exact ⟨hs, ht, recognised_and_read.2 _ _ _ hs ht⟩

/-- White space of Unicode, digits of other scripts and names of numbers are not recognised. -/
example : ["\u00a01", "1\u2003", "\u0661\u0662", "inf", "NaN", ".", "1e"].map isNumeral =
    List.replicate 7 false := by decide +kernel

end Numeral

end WebForm
