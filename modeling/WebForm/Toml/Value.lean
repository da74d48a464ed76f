import WebForm.Numeral.Shortest
import WebForm.Text.Quoted
import WebForm.OrderedMap

/-!
# TOML values

Values as a definition gives them. Tables keep the order in which their keys first came. A date-time
is kept as its text; read as a table, it has that text under a key of its own.

What a definition gives is taken from values of a certain shape. A value of another shape than the
one asked for is a `Mismatch`; the first one counts, in the order of the text.
-/

namespace WebForm.Toml

/-- A TOML value. -/
inductive Value where
  | string (s : String)
  | integer (n : Int)
  | float (x : Binary64)
  | nan
  | boolean (b : Bool)
  | dateTime (text : String)
  | array (items : List Value)
  | table (entries : List (String × Value))

/-- The key of a date-time that is read as a table. -/
def dateTimeKey : String := "$__toml_private_datetime"

namespace Value

/-- The entries of a table, or of a date-time read as one. -/
def entries? : Value → Option (List (String × Value))
  | table entries => some entries
  | dateTime text => some [(dateTimeKey, string text)]
  | _ => none

/-- The text of a number with a fraction: all its places, at least one after the point. -/
def floatText (x : Binary64) : String :=
  let sign := if x.negative then ['-'] else []
  let size :=
    if x.magnitude = 0 then ['0', '.', '0']
    else if x.magnitude < Binary64.infinity then (Binary64.shortest .up x.magnitude).positional
    else ['i', 'n', 'f']
  String.ofList (sign ++ size)

/-- What a value is called in a report. -/
def describe : Value → String
  | string s => "string " ++ Text.quote s
  | integer n => "integer \x60" ++ toString n ++ "\x60"
  | float x => "floating point \x60" ++ floatText x ++ "\x60"
  | nan => "floating point \x60NaN\x60"
  | boolean b => "boolean \x60" ++ (if b then "true" else "false") ++ "\x60"
  | dateTime _ => "map"
  | array _ => "sequence"
  | table _ => "map"

end Value

/-! ## Shapes -/

/-- A value is not of the shape that is asked for. -/
inductive Mismatch where
  /-- It is of another kind. -/
  | kind (found : Value) (expected : String)
  /-- A table lacks an entry. -/
  | missing (key : String)
  /-- An array lacks items. -/
  | length (found : Nat) (expected : String)

/-- What a mismatch is reported as. -/
def Mismatch.message : Mismatch → String
  | kind found expected => "invalid type: " ++ found.describe ++ ", expected " ++ expected
  | missing key => "missing field \x60" ++ key ++ "\x60"
  | length found expected => "invalid length " ++ toString found ++ ", expected " ++ expected

namespace Value

/-- A string. -/
def text : Value → Except Mismatch String
  | string s => .ok s
  | found => .error (.kind found "a string")

/-- A table of strings. -/
def texts (value : Value) : Except Mismatch (OrderedMap String) :=
  match value.entries? with
  | some entries => do
    let pairs ← entries.mapM fun e => e.2.text.map fun s => (e.1, s)
    .ok (.ofList pairs)
  | none => .error (.kind value "a map")

/-- An array of values that are all read alike. -/
def list {α : Type} (item : Value → Except Mismatch α) : Value → Except Mismatch (List α)
  | array items => items.mapM item
  | found => .error (.kind found "a sequence")

end Value

end WebForm.Toml
