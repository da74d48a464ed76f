import WebForm.Numeral
import WebForm.Text.Character

/-!
# Numerals rounded to 64 bits

Numbers with a fraction or an exponent are compared after rounding to the binary64 format, to
nearest with ties to even. A rounded number is a sign and a *magnitude*: the 63 bits of the format
below the sign, read as a natural number. Larger magnitudes are larger numbers, so comparing is
comparing magnitudes. `infinity` is the largest; there is no NaN among the numbers of numerals.

All arithmetic is exact, on natural numbers measured in units of 2⁻¹⁰⁷⁴, the least positive number
of the format.

Two integers of at most 127 bits are compared exactly; every other pair of numerals is compared
after rounding. A text is first recognised as a numeral, which may have white space of its own
around it, and then read without any white space on either side.
-/

namespace WebForm

/-- A number of the binary64 format, NaN excluded. -/
structure Binary64 where
  /-- The sign bit. -/
  negative : Bool
  /-- The bits below the sign. -/
  magnitude : Nat
  deriving DecidableEq, Repr

namespace Binary64

/-- The magnitude of infinity. -/
def infinity : Nat := 0x7FF0000000000000

/-- The leading bit of a significand, which the format leaves out: 2⁵². -/
def leading : Nat := 0x10000000000000

/-- One, in units of 2⁻¹⁰⁷⁴. -/
def one : Nat := Nat.pow 2 1074

/-- A magnitude in units of 2⁻¹⁰⁷⁴. For `infinity` it is the power of two that would come next. -/
def units (magnitude : Nat) : Nat :=
  if magnitude < leading then magnitude
  else (leading + magnitude % leading) * Nat.pow 2 (magnitude / leading - 1)

/-- The natural number nearest to `n / d`, an even one at a tie. -/
def roundHalfEven (n d : Nat) : Nat :=
  if 2 * (n % d) < d ∨ (2 * (n % d) = d ∧ n / d % 2 = 0) then n / d else n / d + 1

/-- The magnitude nearest to `n / d` units: the quotient is rounded at its 53rd binary digit, or at
the last unit when it is shorter. -/
def roundUnits (n d : Nat) : Nat :=
  let shift := Nat.log2 (n / d) - 52
  min infinity (shift * leading + roundHalfEven n (d * Nat.pow 2 shift))

/-- The magnitude nearest to `c * 10 ^ e`. Powers of ten that are out of the format's reach are not
computed: since `8 ^ k ≤ 10 ^ k`, the number is then at least 2¹⁰²⁴ or below 2⁻¹⁰⁷⁵. -/
def roundDecimal (c : Nat) (e : Int) : Nat :=
  match e with
  | .ofNat k =>
    if c = 0 then 0
    else if 1024 ≤ 3 * k then infinity
    else roundUnits (c * Nat.pow 10 k * one) 1
  | .negSucc k =>
    if Nat.log2 c + 1076 ≤ 3 * (k + 1) then 0
    else roundUnits (c * one) (Nat.pow 10 (k + 1))

/-- The number nearest to what a numeral denotes; the sign is kept, also of zero. -/
def ofNumeral (n : Numeral) : Binary64 :=
  ⟨n.negative, roundDecimal n.coefficient n.scale⟩

/-- The number that a text without white space denotes: a numeral is rounded, and infinity may be
called by its name, in any case. -/
def read? (cs : List Char) : Option Binary64 :=
  match Numeral.parseBare? cs with
  | some n => some (ofNumeral n)
  | none =>
    let (negative, word) := Numeral.readSign cs
    if ["inf".toList, "infinity".toList].contains (word.map Char.toLower) then
      some ⟨negative, infinity⟩
    else none

/-- An integer that orders numbers as their values do; both zeros are 0. -/
def rank (x : Binary64) : Int := if x.negative then -(x.magnitude : Int) else x.magnitude

/-- The number is not infinite. -/
def isFinite (x : Binary64) : Bool := x.magnitude < infinity

/-- Toward zero to an integer, clamped to the 64-bit range. -/
def toInt64 (x : Binary64) : Int :=
  let n := units x.magnitude / one
  if x.negative then -(min n 0x8000000000000000 : Nat) else (min n 0x7FFFFFFFFFFFFFFF : Nat)

/-- The 64 bits of the format. -/
def toBits (x : Binary64) : Nat := (if x.negative then 0x8000000000000000 else 0) + x.magnitude

/-- The rounded product, signs apart. -/
def mulMagnitude (a b : Nat) : Nat := roundUnits (units a * units b) one

/-- The rounded quotient of a magnitude by a positive one. -/
def divMagnitude (a b : Nat) : Nat := roundUnits (units a * one) (units b)

/-- Infinity is the next power of two above the finite magnitudes. -/
example : units infinity = Nat.pow 2 (1024 + 1074) := by decide +kernel

/-- One is 2¹⁰⁷⁴ units. -/
example : units (roundDecimal 1 0) = one := by decide +kernel

end Binary64

end WebForm

/-! ## Comparing numeric text -/

namespace WebForm.Numeral

/-- The integers that take part in exact comparison: the signed 128-bit range. -/
def isWide (n : Int) : Bool :=
  -0x80000000000000000000000000000000 ≤ n && n < 0x80000000000000000000000000000000

/-- The integer that a text without white space denotes, when it is one of the exact range: an
optional sign, and digits. -/
def readWide? (cs : List Char) : Option Int :=
  let (negative, digits) := readSign cs
  if digits.isEmpty || !digits.all Char.isDigit then none
  else
    let size : Int := natOfDigits digits
    let n := if negative then -size else size
    if isWide n then some n else none

/-- The text is a numeral of digits alone. -/
def isIntegerText (s : String) : Bool := (parse? s).any isInteger

/-- The integer that a text denotes, when it is one of the exact range. -/
def wideInteger? (s : String) : Option Int :=
  if isIntegerText s then readWide? (Text.trim s.toList) else none

/-- The rounded number that a text denotes. Names of numbers are no numerals. -/
def number? (s : String) : Option Binary64 :=
  if isNumeral s then Binary64.read? (Text.trim s.toList) else none

/-- How the first text compares with the second, when both are numerals. -/
def compareText? (value limit : String) : Option Ordering :=
  match wideInteger? value, wideInteger? limit with
  | some a, some b => some (compare a b)
  | _, _ => do
    let a ← number? value
    let b ← number? limit
    pure (compare a.rank b.rank)

end WebForm.Numeral
