import WebForm.Numeral.Binary64
import WebForm.Proofs.Numeral.Grammar

/-!
# Recognising a numeral and reading it

Whether a text is a numeral is decided with the white space that numerals may have around them, and
its number is read without the white space that any text may have. These are different sets of
characters, and the readers accept texts that are no numerals. Still, every numeral can be read, as
the number that it spells, since all of its own characters are left and none of the others.

Results:
* `trim_eq_of_spellsBare`: trimming a numeral leaves its own characters.
* `number?_eq`: the rounded number of a text is that of the numeral that it spells.
* `readWide?_of_spellsBare`: a numeral of digits alone is read as the integer that it denotes.
-/

namespace WebForm.Numeral

variable {s : String} {cs front back : List Char} {n : Numeral}

/-- Trimming a numeral leaves its own characters. -/
theorem trim_eq_of_spellsBare (hfront : AllPadding front) (hback : AllPadding back)
    (h : SpellsBare cs n) : Text.trim (front ++ (cs ++ back)) = cs := by
  refine strip_append (fun c hc => isBlankChar_of_isPadding (hfront c hc))
    (fun c hc => isBlankChar_of_isPadding (hback c hc)) (ne_nil_of_spellsBare h) ?_
  exact fun c hc => isBlankChar_of_isNumeralChar (isNumeralChar_of_spellsBare h hc)

/-- A text that is read as a numeral is one when it is trimmed. -/
theorem spellsBare_trim (h : parse? s = some n) : SpellsBare (Text.trim s.toList) n := by
  obtain ⟨front, bare, back, hs, hfront, hback, hbare⟩ := spells_iff.mpr h
  rw [hs, trim_eq_of_spellsBare hfront hback hbare]
  exact hbare

theorem read?_of_spellsBare (h : SpellsBare cs n) :
    Binary64.read? cs = some (Binary64.ofNumeral n) := by
  unfold Binary64.read?
  rw [parseBare?_eq_some_iff.mpr h]

/-- **The rounded number of a text is that of the numeral** that it spells. -/
theorem number?_eq (s : String) : number? s = (parse? s).map Binary64.ofNumeral := by
  unfold number? isNumeral
  cases h : parse? s with
  | none => rfl
  | some n => exact read?_of_spellsBare (spellsBare_trim h)

/-- A numeral of digits alone is read as the integer that it denotes, in the exact range. -/
theorem readWide?_of_spellsBare (h : SpellsBare cs n) (hinteger : n.isInteger = true) :
    readWide? cs = n.integer?.filter isWide := by
  obtain ⟨hsign, hwhole, hfraction, hexponent, hne⟩ := h
  cases hfraction with
  | point => simp [isInteger] at hinteger
  | absent =>
    cases hexponent with
    | power => simp [isInteger] at hinteger
    | absent =>
      have hread := readSign_append hsign fun c hc =>
        ne_sign_of_isDigit (head?_of_allDigits hwhole hc)
      have hempty := List.isEmpty_eq_false_iff.mpr (by simpa using hne)
      simp only [readWide?, List.append_nil, hread, all_isDigit_iff.mpr hwhole, hempty]
      simp [integer?, isInteger, coefficient, Option.filter]

end WebForm.Numeral
