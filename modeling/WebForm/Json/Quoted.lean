import WebForm.Text.Character

/-!
# String literals of JSON

Between its quotes a literal holds characters and escapes. Most escapes stand for a character. The
escape `\u` with four hexadecimal digits stands for a UTF-16 unit: two of them make up a character
beyond U+FFFF, and a surrogate that has no partner makes the literal meaningless.

`quote` writes the literal of a string: escapes for quotes, backslashes and control characters, and
every other character as it is.
-/

namespace WebForm.Json

/-- What a literal is made of. -/
inductive Piece where
  /-- A character, escaped or not. -/
  | char (c : Char)
  /-- A UTF-16 unit, written with four hexadecimal digits. -/
  | unit (u : Nat)
  deriving DecidableEq, Repr

/-! ## Reading -/

/-- The character that a letter after a backslash stands for. -/
def escaped? (letter : Char) : Option Char :=
  if letter = '"' then some '"'
  else if letter = '\\' then some '\\'
  else if letter = '/' then some '/'
  else if letter = 'b' then some '\x08'
  else if letter = 'f' then some '\x0c'
  else if letter = 'n' then some '\n'
  else if letter = 'r' then some '\r'
  else if letter = 't' then some '\t'
  else none

/-- What the character may not stand for itself: the controls below U+0020. -/
def isRaw (c : Char) : Bool := 0x20 ≤ c.toNat

/-- The pieces up to the closing quote, and what follows it. -/
def readPieces : List Char → Option (List Piece × List Char)
  | [] => none
  | '"' :: rest => some ([], rest)
  | '\\' :: 'u' :: a :: b :: c :: d :: rest =>
    match Text.Hexadecimal.number? [a, b, c, d], readPieces rest with
    | some u, some (pieces, rest) => some (.unit u :: pieces, rest)
    | _, _ => none
  | '\\' :: letter :: rest =>
    match escaped? letter, readPieces rest with
    | some c, some (pieces, rest) => some (.char c :: pieces, rest)
    | _, _ => none
  | c :: rest =>
    if isRaw c && c != '\\' then
      match readPieces rest with
      | some (pieces, rest) => some (.char c :: pieces, rest)
      | none => none
    else none

/-- The unit is the first of a pair. -/
def isLeading (u : Nat) : Bool := 0xD800 ≤ u && u ≤ 0xDBFF

/-- The unit is the second of a pair. -/
def isTrailing (u : Nat) : Bool := 0xDC00 ≤ u && u ≤ 0xDFFF

/-- The character that a pair of units stands for. -/
def ofPair (u v : Nat) : Char := Char.ofNat (0x10000 + (u - 0xD800) * 0x400 + (v - 0xDC00))

/-- The characters that pieces stand for, unless a surrogate has no partner. -/
def decodePieces : List Piece → Option (List Char)
  | [] => some []
  | .char c :: rest => (decodePieces rest).map (c :: ·)
  | .unit u :: .unit v :: rest =>
    if isLeading u then
      if isTrailing v then (decodePieces rest).map (ofPair u v :: ·) else none
    else if isTrailing u then none
    else (decodePieces (.unit v :: rest)).map (Char.ofNat u :: ·)
  | .unit u :: rest =>
    if isLeading u || isTrailing u then none
    else (decodePieces rest).map (Char.ofNat u :: ·)

/-- The string that a literal stands for. -/
def text? (pieces : List Piece) : Option String := (decodePieces pieces).map String.ofList

/-! ## Writing -/

/-- How a character is written in a literal. -/
def quoteChar (c : Char) : List Char :=
  if c = '"' then ['\\', '"']
  else if c = '\\' then ['\\', '\\']
  else if c = '\x08' then ['\\', 'b']
  else if c = '\x0c' then ['\\', 'f']
  else if c = '\n' then ['\\', 'n']
  else if c = '\r' then ['\\', 'r']
  else if c = '\t' then ['\\', 't']
  else if isRaw c then [c]
  else
    ['\\', 'u', '0', '0', Text.Hexadecimal.digitChar (c.toNat / 16),
      Text.Hexadecimal.digitChar (c.toNat % 16)]

/-- The literal of a string. -/
def quote (s : String) : List Char := '"' :: (s.toList.flatMap quoteChar ++ ['"'])

/-- Control characters without a letter are written with four digits. -/
example : quote "a\"\x01" = "\"a\\\"\\u0001\"".toList := by decide +kernel

end WebForm.Json
