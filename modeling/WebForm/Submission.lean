import WebForm.Json.Document
import WebForm.OrderedMap
import WebForm.Text.Character
import WebForm.Text.Split
import WebForm.Text.Utf8

/-!
# Submissions

A submission is given as a JSON value or as a urlencoded body.

The members of a JSON object are submitted values by name. Strings are taken as they are and `null`
is the empty text; every other value is its own JSON text. A value that is no object submits
nothing.

A urlencoded body is a list of pairs separated by `&`, each a key and a value around its first `=`.
In both, `+` is a space and `%` with two hexadecimal digits is one byte of UTF-8; any other `%`
stands for itself. A component whose bytes are not UTF-8 is refused.
-/

namespace WebForm.Submission

/-- The submitted text of a JSON value. -/
def textOf : Json → String
  | .string s => s
  | .null => ""
  | value => value.compact

/-- The submission of a JSON value. -/
def ofJson : Json → OrderedMap String
  | .object members => .ofList (members.map fun e => (e.1, textOf e.2))
  | _ => .empty

end WebForm.Submission

namespace WebForm.Urlencoded

/-- A component does not decode to text. -/
structure InvalidEncoding where
  /-- The component as submitted. -/
  component : String
  deriving DecidableEq, Repr

/-- What a component that does not decode is reported as. -/
def InvalidEncoding.message (e : InvalidEncoding) : String :=
  "invalid percent-encoding in '" ++ e.component ++ "'"

/-- The byte that two hexadecimal digits escape. -/
def escaped? (high low : Char) : Option UInt8 := do
  let h ← Text.Hexadecimal.digit? high
  let l ← Text.Hexadecimal.digit? low
  pure (h * 16 + l).toUInt8

/-- The bytes of a component. -/
def bytes : List Char → List UInt8
  | [] => []
  | '+' :: cs => 0x20 :: bytes cs
  | '%' :: high :: low :: cs =>
    match escaped? high low with
    | some b => b :: bytes cs
    | none => Text.Utf8.encodeChar '%' ++ bytes (high :: low :: cs)
  | c :: cs => Text.Utf8.encodeChar c ++ bytes cs

/-- The text of a component. -/
def decodeComponent (component : List Char) : Except InvalidEncoding String :=
  match Text.Utf8.decodeString? (bytes component) with
  | some s => .ok s
  | none => .error ⟨String.ofList component⟩

/-- The key and the value of a pair; a pair without `=` has an empty value. -/
def splitPair (pair : List Char) : List Char × List Char :=
  (Text.splitFirst '=' pair).getD (pair, [])

/-- The pairs of a body, as submitted; empty ones are skipped. -/
def pairs (body : List Char) : List (List Char × List Char) :=
  ((Text.split '&' body).filter fun pair => !pair.isEmpty).map splitPair

/-- The text of a pair, the key first. -/
def decodePair (pair : List Char × List Char) : Except InvalidEncoding (String × String) := do
  let key ← decodeComponent pair.1
  let value ← decodeComponent pair.2
  pure (key, value)

/-- The data of a body: the last value of every key, at the place of its first. -/
def decode (body : String) : Except InvalidEncoding (OrderedMap String) := do
  let entries ← (pairs body.toList).mapM decodePair
  pure (.ofList entries)

end WebForm.Urlencoded
