import WebForm.Json.Quoted
import WebForm.Numeral

/-!
# The tokens of JSON text

JSON text is read as tokens, with white space between them. Text that is no token becomes the token
`bad` and ends the list, so that a reader learns of it only when it gets there.
-/

namespace WebForm.Json

/-- A token of JSON text. -/
inductive Token where
  | openBrace
  | closeBrace
  | openBracket
  | closeBracket
  | colon
  | comma
  | null
  | bool (b : Bool)
  | number (n : Numeral)
  | string (pieces : List Piece)
  /-- Text that is no token. -/
  | bad
  deriving DecidableEq, Repr

namespace Token

/-- White space between tokens. -/
def isSpace (c : Char) : Bool := c = ' ' || c = '\n' || c = '\t' || c = '\r'

/-! ## Numbers -/

/-- The digits before the point: a zero alone, or digits that do not start with zero. -/
def readWhole (cs : List Char) : Option (List Char × List Char) :=
  match Numeral.readDigits cs with
  | ([], _) => none
  | ('0' :: _ :: _, _) => none
  | (whole, rest) => some (whole, rest)

/-- An optional fraction, with at least one digit after the point. -/
def readPlaces (cs : List Char) : Option (Option (List Char) × List Char) :=
  match Numeral.readFraction cs with
  | (some [], _) => none
  | (fraction, rest) => some (fraction, rest)

/-- An optional exponent, with at least one digit. -/
def readPower : List Char → Option (Option Int × List Char)
  | [] => some (none, [])
  | e :: rest =>
    if e = 'e' ∨ e = 'E' then
      let (negative, rest) := Numeral.readSign rest
      match Numeral.readDigits rest with
      | ([], _) => none
      | (digits, rest) =>
        let n : Int := Numeral.natOfDigits digits
        some (some (if negative then -n else n), rest)
    else some (none, e :: rest)

/-- A number, and what follows it. -/
def readNumber (cs : List Char) : Option (Numeral × List Char) := do
  let (negative, cs) := match cs with
    | '-' :: rest => (true, rest)
    | cs => (false, cs)
  let (whole, cs) ← readWhole cs
  let (fraction, cs) ← readPlaces cs
  let (exponent, cs) ← readPower cs
  pure (⟨negative, whole, fraction, exponent⟩, cs)

/-! ## Tokens -/

/-- The token at the front of text that does not start with white space, and what follows it. -/
def first? : List Char → Option (Token × List Char)
  | '\x7b' :: rest => some (.openBrace, rest)
  | '\x7d' :: rest => some (.closeBrace, rest)
  | '[' :: rest => some (.openBracket, rest)
  | ']' :: rest => some (.closeBracket, rest)
  | ':' :: rest => some (.colon, rest)
  | ',' :: rest => some (.comma, rest)
  | 'n' :: 'u' :: 'l' :: 'l' :: rest => some (.null, rest)
  | 't' :: 'r' :: 'u' :: 'e' :: rest => some (.bool true, rest)
  | 'f' :: 'a' :: 'l' :: 's' :: 'e' :: rest => some (.bool false, rest)
  | '"' :: rest => (readPieces rest).map fun (pieces, rest) => (.string pieces, rest)
  | cs => (readNumber cs).map fun (n, rest) => (.number n, rest)

/-- The tokens of a text, `fuel` at most. -/
def scan : Nat → List Char → List Token
  | 0, _ => []
  | fuel + 1, cs =>
    match cs.dropWhile isSpace with
    | [] => []
    | cs =>
      match first? cs with
      | some (token, rest) => token :: scan fuel rest
      | none => [.bad]

end Token

/-- The tokens of a text. There are at most as many as it has characters. -/
def tokens (text : String) : List Token := Token.scan text.length text.toList

end WebForm.Json
