/-!
# Numerals

The decimal numerals that numeric rules understand: an optional sign, digits with an optional
fraction (or a fraction alone), an optional exponent, and ASCII white space on either side. Digits
are ASCII digits. Hexadecimal digits, digit separators, `inf` and `nan` are not part of the grammar.

`Numeral.parse?` reads one, `Numeral.render` writes one, and a numeral stands for
`± coefficient * 10 ^ scale` exactly.
-/

namespace WebForm

/-- A numeral as written. -/
structure Numeral where
  /-- Written with a minus sign. -/
  negative : Bool
  /-- The digits before the point. -/
  whole : List Char
  /-- The digits after the point, when there is one. -/
  fraction : Option (List Char)
  /-- The exponent, when there is one. -/
  exponent : Option Int
  deriving DecidableEq, Repr

namespace Numeral

/-- White space around a numeral: tab, line feed, vertical tab, form feed, carriage return and
space. -/
def isPadding (c : Char) : Bool :=
  (0x09 ≤ c.toNat && c.toNat ≤ 0x0D) || c.toNat == 0x20

/-- The number that a string of decimal digits denotes. -/
def natOfDigits (digits : List Char) : Nat :=
  digits.foldl (fun n c => n * 10 + (c.toNat - '0'.toNat)) 0

/-- An optional sign: whether it is a minus, and what follows. -/
def readSign : List Char → Bool × List Char
  | '+' :: cs => (false, cs)
  | '-' :: cs => (true, cs)
  | cs => (false, cs)

/-- The digits at the front, and what follows. -/
def readDigits (cs : List Char) : List Char × List Char :=
  (cs.takeWhile Char.isDigit, cs.dropWhile Char.isDigit)

/-- An optional fraction: a point and its digits, and what follows. -/
def readFraction : List Char → Option (List Char) × List Char
  | '.' :: cs => (some (readDigits cs).1, (readDigits cs).2)
  | cs => (none, cs)

/-- What ends a numeral: nothing, or an exponent with at least one digit. -/
def readExponent? : List Char → Option (Option Int)
  | [] => some none
  | e :: cs =>
    if e = 'e' ∨ e = 'E' then
      let (negative, cs) := readSign cs
      if cs.isEmpty || !cs.all Char.isDigit then none
      else
        let n : Int := natOfDigits cs
        some (some (if negative then -n else n))
    else none

/-- A numeral without the white space around it. -/
def parseBare? (cs : List Char) : Option Numeral :=
  let (negative, cs) := readSign cs
  let (whole, cs) := readDigits cs
  let (fraction, cs) := readFraction cs
  if whole.isEmpty && (fraction.getD []).isEmpty then none
  else (readExponent? cs).map fun exponent => ⟨negative, whole, fraction, exponent⟩

/-- Without the white space on either side. -/
def unpad (cs : List Char) : List Char :=
  ((cs.dropWhile isPadding).reverse.dropWhile isPadding).reverse

/-- Read a numeral. -/
def parse? (s : String) : Option Numeral := parseBare? (unpad s.toList)

/-- The text is a numeral. -/
def isNumeral (s : String) : Bool := (parse? s).isSome

/-- All digits as one number. -/
def coefficient (n : Numeral) : Nat := natOfDigits (n.whole ++ n.fraction.getD [])

/-- The power of ten of the last digit. -/
def scale (n : Numeral) : Int := n.exponent.getD 0 - (n.fraction.getD []).length

/-- Digits alone, without point and exponent. -/
def isInteger (n : Numeral) : Bool := n.fraction.isNone && n.exponent.isNone

/-- The integer that a numeral of digits alone denotes. -/
def integer? (n : Numeral) : Option Int :=
  if n.isInteger then
    some (if n.negative then -(n.coefficient : Int) else n.coefficient)
  else none

end Numeral

end WebForm
