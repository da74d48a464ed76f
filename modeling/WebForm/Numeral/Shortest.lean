import WebForm.Numeral.Binary64

/-!
# The fewest digits that read back

A number of the binary64 format is written with the fewest decimal digits that still round to it:
the coarsest decimal grid that has a point in the interval of numbers that round to the given one.
Of two such points the nearer one is taken; `Tie` says what happens half-way.

A decimal is written with all its places, or with one digit before the point and a power of ten.
-/

namespace WebForm.Binary64

/-- What to do when two shortest forms are equally near. -/
inductive Tie where
  /-- Take the one with an even last digit. -/
  | even
  /-- Take the larger one. -/
  | up
  deriving DecidableEq, Repr

/-- A positive decimal `digits * 10 ^ exponent`. -/
structure Decimal where
  digits : Nat
  exponent : Int
  deriving DecidableEq, Repr

/-- `d * 10 ^ p` as a numerator over the common denominator `2 ^ 1075 * 10 ^ (-p)` or `2 ^ 1075`,
beside the factor by which half-units are multiplied. -/
def scaleFactors (p : Int) : Nat × Nat :=
  match p with
  | .ofNat k => (Nat.pow 10 k * (2 * one), 1)
  | .negSucc k => (2 * one, Nat.pow 10 (k + 1))

/-- The digit string on the grid of `10 ^ p` that rounds to a finite positive magnitude and is
nearest to it. Lengths are in half-units, so that the ends of the interval are whole. -/
def onGrid? (tie : Tie) (magnitude : Nat) (p : Int) : Option Nat :=
  let low := units (magnitude - 1) + units magnitude
  let high := units magnitude + units (magnitude + 1)
  let exact := 2 * units magnitude
  let (point, unit) := scaleFactors p
  let closed := magnitude % 2 == 0
  let inside (d : Nat) : Bool :=
    let x := d * point
    (low * unit < x && x < high * unit) || (closed && (x == low * unit || x == high * unit))
  let below := exact * unit / point
  let above := below + 1
  match inside below, inside above with
  | false, false => none
  | true, false => some below
  | false, true => some above
  | true, true =>
    let left := exact * unit - below * point
    let right := above * point - exact * unit
    if left < right then some below
    else if right < left then some above
    else match tie with
      | .even => some (if below % 2 == 0 then below else above)
      | .up => some above

/-- The first grid with a point in the interval, from `10 ^ p` down. -/
def firstGrid (tie : Tie) (magnitude : Nat) : Nat → Int → Decimal
  | 0, p => ⟨0, p⟩
  | fuel + 1, p =>
    match onGrid? tie magnitude p with
    | some d => ⟨d, p⟩
    | none => firstGrid tie magnitude fuel (p - 1)

/-- The shortest decimal of a finite positive magnitude. The grid of 10³⁰⁹ is above every number and
that of 10⁻³²⁴ has a point in every interval, so 634 grids are enough. -/
def shortest (tie : Tie) (magnitude : Nat) : Decimal := firstGrid tie magnitude 634 309

end WebForm.Binary64

namespace WebForm.Binary64.Decimal

/-- The digits, without a sign or a point. -/
def digitChars (d : Decimal) : List Char := (Nat.repr d.digits).toList

/-- The power of ten of the first digit. -/
def leadingPower (d : Decimal) : Int := d.exponent + d.digitChars.length - 1

/-- `n` zeros. -/
def zeros (n : Nat) : List Char := List.replicate n '0'

/-- With all places before the point, and at least one after it. -/
def positional (d : Decimal) : List Char :=
  let digits := d.digitChars
  match d.exponent with
  | .ofNat k => digits ++ zeros k ++ ['.', '0']
  | .negSucc k =>
    let places := k + 1
    if digits.length ≤ places then
      '0' :: '.' :: (zeros (places - digits.length) ++ digits)
    else
      digits.take (digits.length - places) ++ '.' :: digits.drop (digits.length - places)

/-- With one digit before the point, no point after a lone digit, and a power of ten that has its
sign. -/
def scientific (d : Decimal) : List Char :=
  let mantissa := match d.digitChars with
    | [] => []
    | [c] => [c]
    | c :: cs => c :: '.' :: cs
  let power := d.leadingPower
  mantissa ++ 'e' :: (if power < 0 then '-' else '+') :: (Nat.repr power.natAbs).toList

end WebForm.Binary64.Decimal
