import WebForm.Json
import WebForm.Json.Token

/-!
# Reading JSON text

Tokens are read from left to right, and the first fault ends the reading. A text is either malformed
or, where a certain shape is asked for, of the wrong shape; whichever shows first counts.

A `Document` is the tree of a text with its literals as they are written. Their meaning is a second
step, `Document.value?`, because a reader that skips a part does not ask for it. In values the
members of an object are in the order of their keys' bytes, and the last of several members with one
key counts. Values nest 127 deep at most.
-/

namespace WebForm.Json

/-- Why a text is refused. -/
inductive Fault where
  /-- It is not JSON. -/
  | malformed
  /-- It is not of the shape that was asked for. -/
  | mismatched
  deriving DecidableEq, Repr

/-- Reads from tokens, leaving those that follow. -/
abbrev Reader (α : Type) := List Token → Except Fault (α × List Token)

namespace Reader

variable {α σ : Type}

/-- A colon. -/
def colon : Reader Unit
  | .colon :: rest => .ok ((), rest)
  | _ => .error .malformed

/-- The string of a literal. -/
def decode (pieces : List Piece) : Except Fault String :=
  match text? pieces with
  | some s => .ok s
  | none => .error .malformed

/-- The members that follow an opening brace or a comma, up to the closing brace, `fuel` at most.
`step` reads on from behind a key. -/
def moreMembers (step : σ → List Piece → Reader σ) : Nat → σ → Reader σ
  | fuel + 1, s, .string key :: rest => do
    let (s, rest) ← step s key rest
    match rest with
    | .comma :: rest => moreMembers step fuel s rest
    | .closeBrace :: rest => .ok (s, rest)
    | _ => .error .malformed
  | _, _, _ => .error .malformed

/-- The members that follow an opening brace, up to the closing one. -/
def members (step : σ → List Piece → Reader σ) (s : σ) : Reader σ
  | .closeBrace :: rest => .ok (s, rest)
  | ts => moreMembers step ts.length s ts

/-- The items that follow an opening bracket or a comma, up to the closing bracket. -/
def moreItems (item : Reader α) : Nat → Reader (List α)
  | 0, _ => .error .malformed
  | fuel + 1, ts => do
    let (a, rest) ← item ts
    match rest with
    | .comma :: rest =>
      let (l, rest) ← moreItems item fuel rest
      .ok (a :: l, rest)
    | .closeBracket :: rest => .ok ([a], rest)
    | _ => .error .malformed

/-- The items that follow an opening bracket, up to the closing one. -/
def items (item : Reader α) : Reader (List α)
  | .closeBracket :: rest => .ok ([], rest)
  | ts => moreItems item ts.length ts

/-- Read a whole text: nothing may follow. -/
def run (reader : Reader α) (text : String) : Except Fault α := do
  let (a, rest) ← reader (tokens text)
  if rest.isEmpty then .ok a else .error .malformed

end Reader

/-! ## Documents -/

/-- The tree of a text, its literals as written. -/
inductive Document where
  | null
  | bool (b : Bool)
  | number (n : Numeral)
  | string (pieces : List Piece)
  | array (items : List Document)
  | object (members : List (List Piece × Document))

namespace Document

/-- Read a tree whose brackets nest `depth` deep at most. -/
def read : Nat → Reader Document
  | _, .null :: rest => .ok (.null, rest)
  | _, .bool b :: rest => .ok (.bool b, rest)
  | _, .number n :: rest => .ok (.number n, rest)
  | _, .string pieces :: rest => .ok (.string pieces, rest)
  | depth + 1, .openBracket :: rest => do
    let (items, rest) ← Reader.items (read depth) rest
    .ok (.array items, rest)
  | depth + 1, .openBrace :: rest => do
    let step (members : List (List Piece × Document)) (key : List Piece) :
        Reader (List (List Piece × Document)) := fun ts => do
      let (_, ts) ← Reader.colon ts
      let (value, ts) ← read depth ts
      .ok (members ++ [(key, value)], ts)
    let (members, rest) ← Reader.members step [] rest
    .ok (.object members, rest)
  | _, _ => .error .malformed

/-- The members of an object in the order of their keys' bytes. -/
def sortMembers (members : OrderedMap Json) : List (String × Json) :=
  members.entries.mergeSort fun a b => decide (a.1 ≤ b.1)

mutual

/-- The value of a tree, unless one of its literals has none. -/
def value? : Document → Option Json
  | null => some .null
  | bool b => some (.bool b)
  | number n => (Number.ofNumeral? n).map .number
  | string pieces => (text? pieces).map .string
  | array items => (itemValues? items).map .array
  | object members => (memberValues? members .empty).map fun m => .object (sortMembers m)

/-- The values of items. -/
def itemValues? : List Document → Option (List Json)
  | [] => some []
  | item :: items => do
    let value ← item.value?
    let values ← itemValues? items
    pure (value :: values)

/-- The values of members, added to a map. -/
def memberValues? : List (List Piece × Document) → OrderedMap Json → Option (OrderedMap Json)
  | [], m => some m
  | (key, value) :: members, m => do
    let key ← text? key
    let value ← value.value?
    memberValues? members (m.insert key value)

end

end Document

/-- How deep the brackets of a value may nest. -/
def depthLimit : Nat := 127

/-- Read a text as a value, unless it is malformed. -/
def parse? (text : String) : Option Json :=
  match Reader.run (Document.read depthLimit) text with
  | .ok document => document.value?
  | .error _ => none

/-! ## Texts -/

namespace Reader

/-- The fault of finding a token where something else is asked for: a mismatch, unless the token
itself is no value. -/
def unexpected : List Token → Fault
  | .null :: _ => .mismatched
  | .bool _ :: _ => .mismatched
  | .number n :: _ => if (Number.ofNumeral? n).isSome then .mismatched else .malformed
  | .string pieces :: _ => if (text? pieces).isSome then .mismatched else .malformed
  | .openBracket :: _ => .mismatched
  | .openBrace :: _ => .mismatched
  | _ => .malformed

/-- A string. -/
def text : Reader String
  | .string pieces :: rest => do
    let s ← decode pieces
    .ok (s, rest)
  | ts => .error (unexpected ts)

/-- A string, or `null` for none. -/
def text? : Reader (Option String)
  | .null :: rest => .ok (none, rest)
  | ts => do
    let (s, rest) ← text ts
    .ok (some s, rest)

/-- Read on from behind the key of a string. -/
def textMember (m : OrderedMap String) (key : List Piece) : Reader (OrderedMap String) :=
  fun ts => do
    let key ← decode key
    let (_, ts) ← colon ts
    let (value, ts) ← text ts
    .ok (m.insert key value, ts)

/-- An object whose members are strings, in the order of the text. The last of several members with
one key counts, in the place of the first. -/
def texts : Reader (OrderedMap String)
  | .openBrace :: rest => members textMember .empty rest
  | ts => .error (unexpected ts)

/-- Pass over a value of any kind. Brackets may nest without limit, and literals need no meaning. -/
def skip : Reader Unit := fun ts => do
  let (_, rest) ← Document.read ts.length ts
  .ok ((), rest)

end Reader

end WebForm.Json
