import WebForm.Numeral.Shortest

/-!
# Numbers of JSON text

An integer of 64 bits, signed or not, is kept exactly. Every other number is of the binary64 format:
its digits are gathered into a significand of 64 bits, digits that no longer fit are dropped, and
the significand is then scaled by a rounded power of ten. A number beyond the format's range is
refused.

Numbers are written with the fewest digits that read back, with all places from 10⁻⁵ up to 10¹⁶ and
with a power of ten outside.
-/

namespace WebForm.Json

/-- A number of JSON text. -/
inductive Number where
  | integer (n : Int)
  | float (x : Binary64)
  deriving DecidableEq, Repr

namespace Number

/-! ## From digits to a number -/

/-- Take digits onto a significand while it fits into 64 bits: what it becomes, and the digits that
were not taken. -/
def takeDigits (significand : Nat) : List Char → Nat × List Char
  | [] => (significand, [])
  | c :: cs =>
    let next := significand * 10 + (c.toNat - '0'.toNat)
    if next < 0x10000000000000000 then takeDigits next cs else (significand, c :: cs)

/-- The greatest power of ten that numbers are scaled by in one step. -/
def stepPower : Nat := 308

/-- The magnitude of a power of ten. -/
def tenTo (k : Nat) : Nat := Binary64.roundDecimal 1 k

/-- Divide a magnitude by `10 ^ k`, in steps of at most `10 ^ 308` each of which is rounded. -/
def scaleDown (magnitude k : Nat) : Nat :=
  if k ≤ stepPower then Binary64.divMagnitude magnitude (tenTo k)
  else if magnitude = 0 then 0
  else scaleDown (Binary64.divMagnitude magnitude (tenTo stepPower)) (k - stepPower)
termination_by k
decreasing_by simp only [stepPower] at *; omega

/-- A magnitude times a power of ten, unless that is out of range. Zero stays zero. -/
def scale? (magnitude : Nat) (power : Int) : Option Nat :=
  match power with
  | .ofNat k =>
    if magnitude = 0 then some 0
    else if stepPower < k then none
    else
      let product := Binary64.mulMagnitude magnitude (tenTo k)
      if product < Binary64.infinity then some product else none
  | .negSucc k => some (scaleDown magnitude (k + 1))

/-- The integer in sign and size, when it is one of 64 bits. Minus zero is not. -/
def integer? (negative : Bool) (size : Nat) : Option Int :=
  if negative then
    if size = 0 ∨ 0x8000000000000000 < size then none else some (-(size : Int))
  else some size

/-- The number that a numeral denotes, unless it is out of range. -/
def ofNumeral? (n : Numeral) : Option Number :=
  let (size, left) := takeDigits 0 n.whole
  let float? (significand : Nat) (power : Int) : Option Number :=
    (scale? (Binary64.roundDecimal significand 0) power).map fun m => .float ⟨n.negative, m⟩
  if n.isInteger && left.isEmpty then
    match integer? n.negative size with
    | some i => some (.integer i)
    | none => float? size 0
  else
    let fraction := n.fraction.getD []
    let (significand, unused) := takeDigits size fraction
    let taken := fraction.length - unused.length
    float? significand (n.exponent.getD 0 + left.length - taken)

/-! ## As text -/

/-- The text of a positive finite magnitude. -/
def magnitudeText (magnitude : Nat) : List Char :=
  let d := Binary64.shortest .even magnitude
  if -5 ≤ d.leadingPower ∧ d.leadingPower < 16 then d.positional else d.scientific

/-- A number as text. -/
def render : Number → String
  | .integer n => toString n
  | .float x =>
    let sign := if x.negative then ['-'] else []
    let size := if x.magnitude = 0 then ['0', '.', '0'] else magnitudeText x.magnitude
    String.ofList (sign ++ size)

/-- All places are written, with at least one after the point. -/
example : (ofNumeral? ⟨false, ['1'], some ['5'], none⟩).map render = some "1.5" := by
  decide +kernel

/-- From 10¹⁶ on a power of ten is written. -/
example : (ofNumeral? ⟨false, ['1'], none, some 16⟩).map render = some "1e+16" := by
  decide +kernel

/-- Minus zero is no integer. -/
example : (ofNumeral? ⟨true, ['0'], none, none⟩).map render = some "-0.0" := by decide +kernel

end Number

end WebForm.Json
