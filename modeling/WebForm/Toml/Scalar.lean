import WebForm.Numeral.Binary64
import WebForm.Text.Character
import WebForm.Toml.Value

/-!
# Numbers and dates of TOML

Integers are decimal with an optional sign, or hexadecimal, octal or binary after `0x`, `0o` or
`0b`, and have to fit into 64 signed bits. A number with a fraction or an exponent is rounded to
binary64, and refused when it rounds to positive infinity. Underscores may stand between two digits.

Dates are checked against the calendar. The text of a date-time is kept in one form: a `T` between
date and time, a fraction of at most nine digits without zeros at its end, `Z` for the offset zero.
-/

namespace WebForm.Toml

/-! ## Digits -/

/-- Digits of a class that follow a first one, with single underscores between digits left out. -/
def moreDigits (isDigit : Char → Bool) : List Char → Option (List Char × List Char)
  | [] => some ([], [])
  | '_' :: [] => none
  | '_' :: c :: rest =>
    if isDigit c then (moreDigits isDigit rest).map fun (ds, rest) => (c :: ds, rest) else none
  | c :: rest =>
    if isDigit c then (moreDigits isDigit rest).map fun (ds, rest) => (c :: ds, rest)
    else some ([], c :: rest)

/-- At least one digit of a class. -/
def readDigits (isDigit : Char → Bool) : List Char → Option (List Char × List Char)
  | [] => none
  | c :: rest =>
    if isDigit c then (moreDigits isDigit rest).map fun (ds, rest) => (c :: ds, rest) else none

/-- Decimal digits that do not start with a zero, or a zero alone. -/
def readWhole : List Char → Option (List Char × List Char)
  | '0' :: rest => some (['0'], rest)
  | cs => readDigits Char.isDigit cs

/-! ## Integers -/

/-- An integer of 64 signed bits. -/
def integer? (n : Int) : Option Value :=
  if -0x8000000000000000 ≤ n ∧ n < 0x8000000000000000 then some (.integer n) else none

/-- Digits of another base. -/
def readBased (base : Nat) (cs : List Char) : Option (Value × List Char) := do
  let inBase (c : Char) : Bool := (Text.Hexadecimal.digit? c).any (· < base)
  let (digits, rest) ← readDigits inBase cs
  let n := digits.foldl (fun n c => n * base + (Text.Hexadecimal.digit? c).getD 0) 0
  let value ← integer? n
  pure (value, rest)

/-! ## Decimal numbers -/

/-- An optional fraction. -/
def readFraction : List Char → Option (Option (List Char) × List Char)
  | '.' :: rest => (readDigits Char.isDigit rest).map fun (ds, rest) => (some ds, rest)
  | cs => some (none, cs)

/-- An optional exponent. -/
def readExponent : List Char → Option (Option Int × List Char)
  | [] => some (none, [])
  | c :: rest =>
    if c = 'e' ∨ c = 'E' then do
      let (negative, rest) := Numeral.readSign rest
      let (digits, rest) ← readDigits Char.isDigit rest
      let n : Int := Numeral.natOfDigits digits
      pure (some (if negative then -n else n), rest)
    else some (none, c :: rest)

/-- The value of a numeral. -/
def ofNumeral? (n : Numeral) : Option Value :=
  match n.integer? with
  | some i => integer? i
  | none =>
    let x := Binary64.ofNumeral n
    if x.isFinite || x.negative then some (.float x) else none

/-- A number without a base, after its sign. -/
def readUnsigned (negative : Bool) : List Char → Option (Value × List Char)
  | 'i' :: 'n' :: 'f' :: rest => some (.float ⟨negative, Binary64.infinity⟩, rest)
  | 'n' :: 'a' :: 'n' :: rest => some (.nan, rest)
  | cs => do
    let (whole, cs) ← readWhole cs
    let (fraction, cs) ← readFraction cs
    let (exponent, cs) ← readExponent cs
    let value ← ofNumeral? ⟨negative, whole, fraction, exponent⟩
    pure (value, cs)

/-- A number of any kind. -/
def readNumber : List Char → Option (Value × List Char)
  | '0' :: 'x' :: rest => readBased 16 rest
  | '0' :: 'o' :: rest => readBased 8 rest
  | '0' :: 'b' :: rest => readBased 2 rest
  | cs => let (negative, cs) := Numeral.readSign cs; readUnsigned negative cs

/-! ## Dates and times -/

/-- A number of `count` digits within bounds, as written. -/
def readPlaces (count least most : Nat) (cs : List Char) : Option (List Char × List Char) :=
  let digits := cs.take count
  let n := Numeral.natOfDigits digits
  if digits.length = count ∧ digits.all Char.isDigit ∧ least ≤ n ∧ n ≤ most then
    some (digits, cs.drop count)
  else none

/-- A given character. -/
def readMark (mark : Char) : List Char → Option (List Char)
  | [] => none
  | c :: rest => if c = mark then some rest else none

/-- The year has a 29th of February. -/
def isLeapYear (year : Nat) : Bool := year % 4 = 0 && (year % 100 ≠ 0 || year % 400 = 0)

/-- The last day of a month. -/
def lastDay (year month : Nat) : Nat :=
  if month = 2 then (if isLeapYear year then 29 else 28)
  else if [4, 6, 9, 11].contains month then 30
  else 31

/-- A date. -/
def readDate (cs : List Char) : Option (List Char × List Char) := do
  let (year, cs) ← readPlaces 4 0 9999 cs
  let cs ← readMark '-' cs
  let (month, cs) ← readPlaces 2 1 12 cs
  let cs ← readMark '-' cs
  let last := lastDay (Numeral.natOfDigits year) (Numeral.natOfDigits month)
  let (day, cs) ← readPlaces 2 1 last cs
  pure (year ++ '-' :: month ++ '-' :: day, cs)

/-- A fraction of a second with at most nine digits and no zero at its end. -/
def shortFraction (digits : List Char) : List Char :=
  match ((digits.take 9).reverse.dropWhile (· = '0')).reverse with
  | [] => []
  | digits => '.' :: digits

/-- An optional fraction of a second. -/
def readSecondFraction : List Char → List Char × List Char
  | '.' :: rest =>
    match Numeral.readDigits rest with
    | ([], _) => ([], '.' :: rest)
    | (digits, rest) => (shortFraction digits, rest)
  | cs => ([], cs)

/-- A time of day. -/
def readTime (cs : List Char) : Option (List Char × List Char) := do
  let (hour, cs) ← readPlaces 2 0 23 cs
  let cs ← readMark ':' cs
  let (minute, cs) ← readPlaces 2 0 59 cs
  let cs ← readMark ':' cs
  let (second, cs) ← readPlaces 2 0 60 cs
  let (fraction, cs) := readSecondFraction cs
  pure (hour ++ ':' :: minute ++ ':' :: second ++ fraction, cs)

/-- An offset in hours and minutes, after its sign. -/
def readHours (sign : Char) (cs : List Char) : Option (List Char × List Char) := do
  let (hour, cs) ← readPlaces 2 0 23 cs
  let cs ← readMark ':' cs
  let (minute, cs) ← readPlaces 2 0 59 cs
  let isZero := (hour ++ minute).all (· = '0')
  pure ((if isZero then '+' else sign) :: hour ++ ':' :: minute, cs)

/-- An optional offset. -/
def readOffset : List Char → Option (List Char × List Char)
  | 'Z' :: rest => some (['Z'], rest)
  | 'z' :: rest => some (['Z'], rest)
  | '+' :: rest => readHours '+' rest
  | '-' :: rest => readHours '-' rest
  | cs => some ([], cs)

/-- The text goes on with `count` digits and a mark. -/
def startsWithDigits (count : Nat) (mark : Char) (cs : List Char) : Bool :=
  match cs.drop count with
  | c :: _ => c = mark && (cs.take count).all Char.isDigit
  | [] => false

/-- A date, with a time and an offset when a time follows it. -/
def readDateTime (cs : List Char) : Option (List Char × List Char) := do
  let (date, cs) ← readDate cs
  match cs with
  | [] => pure (date, [])
  | c :: rest =>
    if (c = 'T' || c = 't' || c = ' ') && startsWithDigits 2 ':' rest then
      let (time, rest) ← readTime rest
      let (offset, rest) ← readOffset rest
      pure (date ++ 'T' :: time ++ offset, rest)
    else pure (date, c :: rest)

/-- A number, a date or a time. -/
def readScalar (cs : List Char) : Option (Value × List Char) :=
  let moment (read : Option (List Char × List Char)) : Option (Value × List Char) :=
    read.map fun (text, rest) => (.dateTime (String.ofList text), rest)
  if startsWithDigits 4 '-' cs then moment (readDateTime cs)
  else if startsWithDigits 2 ':' cs then moment (readTime cs)
  else readNumber cs

end WebForm.Toml
