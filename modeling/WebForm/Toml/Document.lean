import WebForm.Toml.Literal
import WebForm.Toml.Scalar
import WebForm.Toml.Table

/-!
# Reading TOML text

A text is a list of lines: headers, keys with their values, comments. `parse?` gives the entries of
its outermost table, in the order in which their keys first came, unless the text is malformed.
-/

namespace WebForm.Toml

/-! ## Values -/

/-- Without the white space, line ends and comments at the front. -/
def skipLines : List Char → List Char
  | [] => []
  | c :: rest =>
    if isSpace c || c = '\n' then skipLines rest
    else if c = '#' then skipLines (rest.dropWhile isLineChar)
    else c :: rest
termination_by cs => cs.length
decreasing_by
  · simp
  · have := (List.dropWhile_sublist isLineChar (l := rest)).length_le
    simp only [List.length_cons]
    omega

/-- Reads a value and gives what follows it. -/
abbrev ValueReader := List Char → Option (Value × List Char)

/-- The items that follow an opening bracket or a comma, up to the closing bracket, `fuel` at most.
A comma may follow the last one. -/
def readItems (read : ValueReader) : Nat → List Char → Option (List Value × List Char)
  | 0, _ => none
  | fuel + 1, cs => do
    let (value, rest) ← read (skipLines cs)
    match skipLines rest with
    | ']' :: rest => pure ([value], rest)
    | ',' :: rest =>
      match skipLines rest with
      | ']' :: rest => pure ([value], rest)
      | rest =>
        let (values, rest) ← readItems read fuel rest
        pure (value :: values, rest)
    | _ => none

/-- An array after its opening bracket. -/
def readArray (read : ValueReader) (cs : List Char) : Option (Value × List Char) :=
  match skipLines cs with
  | ']' :: rest => some (.array [], rest)
  | rest => (readItems read cs.length rest).map fun (values, rest) => (.array values, rest)

/-- A key, a sign of equality and a value. -/
def readPair (read : ValueReader) (cs : List Char) :
    Option ((List String × Value) × List Char) := do
  let (path, rest) ← readKey cs
  match rest with
  | '=' :: rest =>
    let (value, rest) ← read (skipSpace rest)
    pure ((path, value), rest)
  | _ => none

/-- The pairs that follow an opening brace or a comma, up to the closing brace, `fuel` at most. -/
def readPairs (read : ValueReader) : Nat → List Char → Option (List Statement × List Char)
  | 0, _ => none
  | fuel + 1, cs => do
    let ((path, value), rest) ← readPair read cs
    match skipSpace rest with
    | '\x7d' :: rest => pure ([.pair path value], rest)
    | ',' :: rest =>
      let (statements, rest) ← readPairs read fuel rest
      pure (.pair path value :: statements, rest)
    | _ => none

/-- A table after its opening brace. -/
def readTable (read : ValueReader) (cs : List Char) : Option (Value × List Char) :=
  match skipSpace cs with
  | '\x7d' :: rest => some (.table [], rest)
  | rest => do
    let (statements, rest) ← readPairs read cs.length rest
    let entries ← entriesOf? statements
    pure (.table entries, rest)

/-- A value whose brackets nest `depth` deep at most. -/
def readValue : Nat → ValueReader
  | depth + 1, '[' :: rest => readArray (readValue depth) rest
  | depth + 1, '\x7b' :: rest => readTable (readValue depth) rest
  | _, 't' :: 'r' :: 'u' :: 'e' :: rest => some (.boolean true, rest)
  | _, 'f' :: 'a' :: 'l' :: 's' :: 'e' :: rest => some (.boolean false, rest)
  | _, '"' :: rest =>
    (readString ('"' :: rest)).map fun (s, rest) => (.string (String.ofList s), rest)
  | _, '\'' :: rest =>
    (readString ('\'' :: rest)).map fun (s, rest) => (.string (String.ofList s), rest)
  | _, cs => readScalar cs

/-! ## Lines -/

/-- What follows the end of a line, with an optional comment before it. -/
def lineEnd? (cs : List Char) : Option (List Char) :=
  let rest := match skipSpace cs with
    | '#' :: rest => rest.dropWhile isLineChar
    | rest => rest
  match rest with
  | [] => some []
  | c :: rest => if c = '\n' then some rest else none

/-- The statement at the front of a line, if it has one, and what follows. -/
def readStatement (cs : List Char) : Option (Option Statement × List Char) :=
  match skipSpace cs with
  | [] => some (none, [])
  | '\n' :: rest => some (none, '\n' :: rest)
  | '#' :: rest => some (none, '#' :: rest)
  | '[' :: '[' :: rest => do
    let (path, rest) ← readKey rest
    match rest with
    | ']' :: ']' :: rest => pure (some (.itemHeader path), rest)
    | _ => none
  | '[' :: rest => do
    let (path, rest) ← readKey rest
    match rest with
    | ']' :: rest => pure (some (.header path), rest)
    | _ => none
  | rest => do
    let ((path, value), rest) ← readPair (readValue limit) rest
    pure (some (.pair path value), rest)

/-- The statements of a text with at most `fuel` lines. -/
def readStatements : Nat → List Char → Option (List Statement)
  | _, [] => some []
  | 0, _ => none
  | fuel + 1, cs => do
    let (statement, rest) ← readStatement cs
    let rest ← lineEnd? rest
    let statements ← readStatements fuel rest
    pure (statement.toList ++ statements)

/-- Without a byte order mark at the front. -/
def skipByteOrderMark : List Char → List Char
  | '\ufeff' :: rest => rest
  | cs => cs

/-- The entries of the outermost table of a text. -/
def parse? (text : String) : Option (List (String × Value)) := do
  let cs ← unifyLines (skipByteOrderMark text.toList)
  let statements ← readStatements cs.length cs
  entriesOf? statements

end WebForm.Toml
