import WebForm.Text.Character

/-!
# String literals and keys of TOML

Strings stand between double quotes, with escapes, or between single quotes, without; three quotes
let a string run over several lines. A line ends with a line feed here: the two-character form is
replaced before, by `unifyLines`, which refuses a carriage return anywhere else.

A key is a bare word or a one-line string; keys joined by points lead from table to table.
-/

namespace WebForm.Toml

/-! ## Characters -/

/-- Lines end with a line feed alone; a carriage return that does not come before one is refused. -/
def unifyLines : List Char → Option (List Char)
  | [] => some []
  | '\r' :: '\n' :: rest => (unifyLines rest).map ('\n' :: ·)
  | c :: rest => if c = '\r' then none else (unifyLines rest).map (c :: ·)

/-- White space within a line. -/
def isSpace (c : Char) : Bool := c = ' ' || c = '\t'

/-- Without the white space at the front. -/
def skipSpace (cs : List Char) : List Char := cs.dropWhile isSpace

/-- The character may stand in a comment, and within a line of a string: a tab, or anything but a
control character. -/
def isLineChar (c : Char) : Bool :=
  c = '\t' || (0x20 ≤ c.toNat && c.toNat ≤ 0x7E) || 0x80 ≤ c.toNat

/-- The character may stand in a bare key. -/
def isBareChar (c : Char) : Bool := c.isAlphanum || c = '_' || c = '-'

/-! ## Strings -/

/-- The character with a hexadecimal number of a given length. -/
def numbered? (length : Nat) (cs : List Char) : Option Char := do
  let digits := cs.take length
  if digits.length < length then none
  else
    let n ← Text.Hexadecimal.number? digits
    if n.isValidChar then some (Char.ofNat n) else none

/-- The character that the text after a backslash stands for, and how long that text is. -/
def escaped? : List Char → Option (Char × Nat)
  | '"' :: _ => some ('"', 1)
  | '\\' :: _ => some ('\\', 1)
  | 'b' :: _ => some ('\x08', 1)
  | 'f' :: _ => some ('\x0c', 1)
  | 'n' :: _ => some ('\n', 1)
  | 'r' :: _ => some ('\r', 1)
  | 't' :: _ => some ('\t', 1)
  | 'u' :: cs => (numbered? 4 cs).map (·, 5)
  | 'U' :: cs => (numbered? 8 cs).map (·, 9)
  | _ => none

/-- Put characters before what was read. -/
def before (cs : List Char) (read : Option (List Char × List Char)) :
    Option (List Char × List Char) :=
  read.map fun (text, rest) => (cs ++ text, rest)

/-- The rest of a one-line string up to its closing quote, and what follows. -/
def readLine (quote : Char) (escapes : Bool) : List Char → Option (List Char × List Char)
  | [] => none
  | c :: rest =>
    if c = quote then some ([], rest)
    else if c = '\\' && escapes then
      match escaped? rest with
      | some (e, n) => before [e] (readLine quote escapes (rest.drop n))
      | none => none
    else if isLineChar c then before [c] (readLine quote escapes rest)
    else none
termination_by cs => cs.length
decreasing_by all_goals (simp only [List.length_drop, List.length_cons]; omega)

/-- What follows a backslash at the end of a line, with all white space and line ends after it
skipped. -/
def continued? (cs : List Char) : Option (List Char) :=
  match skipSpace cs with
  | '\n' :: rest => some (rest.dropWhile fun c => isSpace c || c = '\n')
  | _ => none

theorem length_continued? {cs rest : List Char} (h : continued? cs = some rest) :
    rest.length ≤ cs.length := by
  unfold continued? at h
  split at h
  · rename_i after hs
    cases h
    have first := (List.dropWhile_sublist isSpace (l := cs)).length_le
    have second :=
      (List.dropWhile_sublist (fun c => isSpace c || c = '\n') (l := after)).length_le
    simp only [skipSpace] at hs
    rw [hs, List.length_cons] at first
    omega
  · simp at h

/-- The rest of a string of several lines up to its three closing quotes, and what follows. Up to
two quotes may stand anywhere, also right before the closing ones. -/
def readLines (quote : Char) (escapes : Bool) : List Char → Option (List Char × List Char)
  | [] => none
  | c :: rest =>
    if c = quote then
      let more := (rest.takeWhile (· = quote)).length
      if more < 2 then
        before (List.replicate (more + 1) quote) (readLines quote escapes (rest.drop more))
      else some (List.replicate (min (more - 2) 2) quote, rest.drop (min more 4))
    else if c = '\\' && escapes then
      match h : continued? rest with
      | some rest' =>
        have := length_continued? h
        readLines quote escapes rest'
      | none =>
        match escaped? rest with
        | some (e, n) => before [e] (readLines quote escapes (rest.drop n))
        | none => none
    else if c = '\n' || isLineChar c then before [c] (readLines quote escapes rest)
    else none
termination_by cs => cs.length
decreasing_by all_goals (simp only [List.length_drop, List.length_cons]; omega)

/-- Without a line end at the front. -/
def skipLineEnd : List Char → List Char
  | '\n' :: rest => rest
  | cs => cs

/-- A string of either kind, one line or several, and what follows. -/
def readString : List Char → Option (List Char × List Char)
  | '"' :: '"' :: '"' :: rest => readLines '"' true (skipLineEnd rest)
  | '"' :: rest => readLine '"' true rest
  | '\'' :: '\'' :: '\'' :: rest => readLines '\'' false (skipLineEnd rest)
  | '\'' :: rest => readLine '\'' false rest
  | _ => none

/-! ## Keys -/

/-- A key without points, and what follows. -/
def readSimpleKey : List Char → Option (String × List Char)
  | '"' :: rest => (readLine '"' true rest).map fun (k, rest) => (String.ofList k, rest)
  | '\'' :: rest => (readLine '\'' false rest).map fun (k, rest) => (String.ofList k, rest)
  | cs =>
    let word := cs.takeWhile isBareChar
    if word.isEmpty then none else some (String.ofList word, cs.dropWhile isBareChar)

/-- Keys joined by points, `count` at most, with white space around each. -/
def readKeys : Nat → List Char → Option (List String × List Char)
  | 0, _ => none
  | count + 1, cs => do
    let (key, rest) ← readSimpleKey (skipSpace cs)
    match skipSpace rest with
    | '.' :: rest =>
      let (keys, rest) ← readKeys count rest
      pure (key :: keys, rest)
    | rest => pure ([key], rest)

/-- How many keys may be joined, and how deep brackets may nest. -/
def limit : Nat := 79

/-- A key of tables and a last key, and what follows. -/
def readKey (cs : List Char) : Option (List String × List Char) := readKeys limit cs

end WebForm.Toml
