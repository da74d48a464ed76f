import WebForm.Unicode.Composition

/-!
# Canonical composition of names

Accents can be written with their letter as one character or after it as several. `compose` brings
text to the form with as few characters as the table of composites allows: composites are taken
apart, marks are put into the order of their combining classes, and what can be composed is
composed (normalization form C, on the characters that a name may hold).
-/

namespace WebForm.DomainName

open Unicode

/-- The canonical combining class. -/
def combiningClass (c : Char) : Nat := (combiningClasses.value? c).getD 0

/-! ## Hangul

Syllables are composed by rule: 19 leading consonants, 21 vowels and 27 trailing consonants, in that
order of significance, from U+AC00 on. -/

/-- Take a Hangul syllable apart. -/
def hangulParts? (c : Char) : Option (List Char) :=
  let n := c.toNat
  if 0xAC00 ≤ n ∧ n ≤ 0xD7A3 then
    let s := n - 0xAC00
    let lead := Char.ofNat (0x1100 + s / 588)
    let vowel := Char.ofNat (0x1161 + s % 588 / 28)
    some (if s % 28 = 0 then [lead, vowel] else [lead, vowel, Char.ofNat (0x11A7 + s % 28)])
  else none

/-- Compose a leading consonant with a vowel, or a syllable of two with a trailing consonant. -/
def hangulPair? (a b : Char) : Option Char :=
  let m := a.toNat
  let n := b.toNat
  if 0x1100 ≤ m ∧ m ≤ 0x1112 ∧ 0x1161 ≤ n ∧ n ≤ 0x1175 then
    some (Char.ofNat (0xAC00 + (m - 0x1100) * 588 + (n - 0x1161) * 28))
  else if 0xAC00 ≤ m ∧ m ≤ 0xD7A3 ∧ (m - 0xAC00) % 28 = 0 ∧ 0x11A8 ≤ n ∧ n ≤ 0x11C2 then
    some (Char.ofNat (m + (n - 0x11A7)))
  else none

/-! ## Taking apart -/

/-- The parts of a composite: of a Hangul syllable, or the two that the table has. -/
def parts? (c : Char) : Option (List Char) :=
  match hangulParts? c with
  | some parts => some parts
  | none => (composites.find? c.toNat).map fun r => r.value.map Char.ofNat

/-- The parts of a composite, the first of which may be a composite again, down to `depth`. -/
def partsOf : Nat → Char → List Char
  | 0, c => [c]
  | depth + 1, c =>
    match parts? c with
    | some (first :: rest) => partsOf depth first ++ rest
    | _ => [c]

/-- Put a mark behind the marks before it that are of no higher class; `cs` is read backwards. -/
def placeMark (c : Char) (k : Nat) : List (Char × Nat) → List (Char × Nat)
  | [] => [(c, k)]
  | (d, m) :: rest =>
    if k ≠ 0 ∧ k < m then (d, m) :: placeMark c k rest else (c, k) :: (d, m) :: rest

/-- Take every composite apart and order the marks. -/
def takeApart (cs : List Char) : List (Char × Nat) :=
  ((cs.flatMap (partsOf 8)).foldl (fun back c => placeMark c (combiningClass c) back) []).reverse

/-! ## Composing -/

/-- The composite of two characters. -/
def pair? (a b : Char) : Option Char :=
  match hangulPair? a b with
  | some c => some c
  | none =>
    (composites.ranges.find? fun r => r.value == [a.toNat, b.toNat]).map fun r => Char.ofNat r.first

/-- Compose what follows a character of class 0: `held` are the marks that did not compose, last
first, and `last` is the class of the last of them. A mark reaches the character when every held
mark is of a lower class. -/
def composeAfter (starter : Char) (held : List Char) (last : Nat) : List (Char × Nat) → List Char
  | [] => starter :: held.reverse
  | (c, k) :: rest =>
    match if held.isEmpty || last < k then pair? starter c else none with
    | some composite => composeAfter composite held last rest
    | none =>
      if k = 0 then starter :: (held.reverse ++ composeAfter c [] 0 rest)
      else composeAfter starter (c :: held) k rest

/-- Compose ordered text; marks at the very front stay. -/
def composeOrdered : List (Char × Nat) → List Char
  | [] => []
  | (c, k) :: rest => if k = 0 then composeAfter c [] 0 rest else c :: composeOrdered rest

/-- The composed form of a text. ASCII text is its own. -/
def compose (cs : List Char) : List Char :=
  if cs.all fun c => c.toNat < 0x80 then cs else composeOrdered (takeApart cs)

end WebForm.DomainName
