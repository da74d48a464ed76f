import WebForm.Json.Number
import WebForm.Json.Quoted
import WebForm.OrderedMap

/-!
# JSON values

Values and their two written forms: `compact`, without any white space, and `pretty`, with every
member and item on a line of its own. Members are written in the order of the value, whatever their
keys.
-/

namespace WebForm

/-- A JSON value. -/
inductive Json where
  | null
  | bool (b : Bool)
  | number (n : Json.Number)
  | string (s : String)
  | array (items : List Json)
  | object (members : List (String × Json))

namespace Json

/-- A Boolean as text. -/
def boolText (b : Bool) : List Char := if b then "true".toList else "false".toList

/-- Parts with a comma between each two. -/
def commaJoin (parts : List (List Char)) : List Char := [','].intercalate parts

/-! ## Compact -/

mutual

/-- Without white space. -/
def compactChars : Json → List Char
  | null => "null".toList
  | bool b => boolText b
  | number n => n.render.toList
  | string s => quote s
  | array items => '[' :: (commaJoin (compactItems items) ++ [']'])
  | object members => '\x7b' :: (commaJoin (compactMembers members) ++ ['\x7d'])

/-- Each item without white space. -/
def compactItems : List Json → List (List Char)
  | [] => []
  | item :: items => compactChars item :: compactItems items

/-- Each member without white space. -/
def compactMembers : List (String × Json) → List (List Char)
  | [] => []
  | (key, value) :: members => (quote key ++ ':' :: compactChars value) :: compactMembers members

end

/-- Without white space. -/
def compact (value : Json) : String := String.ofList (compactChars value)

/-! ## Pretty -/

/-- An end of line and two spaces for each level. -/
def newLine (level : Nat) : List Char := '\n' :: List.replicate (2 * level) ' '

/-- Parts between brackets, each on a line of its own; nothing between the brackets when there are
no parts. -/
def block (level : Nat) (opening closing : Char) (parts : List (List Char)) : List Char :=
  match parts with
  | [] => [opening, closing]
  | parts =>
    opening :: (commaJoin (parts.map (newLine (level + 1) ++ ·)) ++ newLine level ++ [closing])

mutual

/-- With every part on a line of its own; `level` counts the brackets around the value. -/
def prettyChars (level : Nat) : Json → List Char
  | null => "null".toList
  | bool b => boolText b
  | number n => n.render.toList
  | string s => quote s
  | array items => block level '[' ']' (prettyItems (level + 1) items)
  | object members => block level '\x7b' '\x7d' (prettyMembers (level + 1) members)

/-- Each item, its parts on lines of their own. -/
def prettyItems (level : Nat) : List Json → List (List Char)
  | [] => []
  | item :: items => prettyChars level item :: prettyItems level items

/-- Each member, its parts on lines of their own. -/
def prettyMembers (level : Nat) : List (String × Json) → List (List Char)
  | [] => []
  | (key, value) :: members =>
    (quote key ++ ':' :: ' ' :: prettyChars level value) :: prettyMembers level members

end

/-- With every part on a line of its own. -/
def pretty (value : Json) : String := String.ofList (prettyChars 0 value)

/-- Brackets without anything between them stay on their line. -/
example : pretty (array [array [], null]) = "[\n  [],\n  null\n]" := by decide +kernel

/-! ## Texts -/

/-- The object of a map of texts, in the order of the map. -/
def ofTexts (m : OrderedMap String) : Json := object (m.entries.map fun e => (e.1, string e.2))

/-- The array of texts. -/
def ofTextList (l : List String) : Json := array (l.map string)

end Json

end WebForm
