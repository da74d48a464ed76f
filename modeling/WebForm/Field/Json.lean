import WebForm.Field
import WebForm.Json.Document

/-!
# Fields as JSON

A field is written as an object with its name and whatever else is given; an empty label, type or
rule expression is given, an empty map of attributes is not.

It is read from such an object, in which other members are passed over and no member of a field may
come twice, or from an array with the same five parts in their order, of which only the name has to
be there. `null` stands for a label, a type or rules that are not given.
-/

namespace WebForm.Field

/-! ## Writing -/

/-- A member that is there when its text is given. -/
def optionalMember (key : String) (text : Option String) : List (String × Json) :=
  text.toList.map fun s => (key, .string s)

/-- A field as a value. -/
def toJson (field : Field) : Json :=
  .object ([("name", .string field.name)] ++ optionalMember "label" field.givenLabel ++
    optionalMember "type" field.givenType ++ optionalMember "rules" field.givenRules ++
    if field.attributes.isEmpty then [] else [("attributes", .ofTexts field.attributes)])

/-! ## Reading -/

open Json (Fault Piece Reader)

/-- The members of a field that have been read. -/
structure Draft where
  name : Option String
  label : Option (Option String)
  type : Option (Option String)
  rules : Option (Option String)
  attributes : Option (OrderedMap String)

namespace Draft

/-- Nothing read yet. -/
def empty : Draft := ⟨none, none, none, none, none⟩

/-- The field, which needs a name. -/
def field? (draft : Draft) : Except Fault Field :=
  match draft.name with
  | some name => .ok ⟨name, draft.label.join, draft.type.join, draft.rules.join,
      draft.attributes.getD .empty⟩
  | none => .error .mismatched

/-- The value of a member, unless there is one already. -/
def once {α : Type} (present : Option α) (reader : Reader α) : Reader (Option α) := fun ts =>
  match present with
  | some _ => .error .mismatched
  | none => do
    let (_, ts) ← Reader.colon ts
    let (a, ts) ← reader ts
    .ok (some a, ts)

/-- Read on from behind a key. -/
def readMember (draft : Draft) (key : List Piece) : Reader Draft := fun ts => do
  let key ← Reader.decode key
  if key = "name" then
    let (a, ts) ← once draft.name Reader.text ts
    .ok ({ draft with name := a }, ts)
  else if key = "label" then
    let (a, ts) ← once draft.label Reader.text? ts
    .ok ({ draft with label := a }, ts)
  else if key = "type" then
    let (a, ts) ← once draft.type Reader.text? ts
    .ok ({ draft with type := a }, ts)
  else if key = "rules" then
    let (a, ts) ← once draft.rules Reader.text? ts
    .ok ({ draft with rules := a }, ts)
  else if key = "attributes" then
    let (a, ts) ← once draft.attributes Reader.texts ts
    .ok ({ draft with attributes := a }, ts)
  else
    let (_, ts) ← Reader.colon ts
    let (_, ts) ← Reader.skip ts
    .ok (draft, ts)

end Draft

/-- The item behind the first one of an array, if there is one; the closing bracket is left. -/
def nextItem? {α : Type} (reader : Reader α) : Reader (Option α)
  | .closeBracket :: rest => .ok (none, .closeBracket :: rest)
  | .comma :: .closeBracket :: _ => .error .malformed
  | .comma :: ts => do
    let (a, ts) ← reader ts
    .ok (some a, ts)
  | _ => .error .malformed

/-- Read the parts of a field up to the closing bracket of their array. -/
def readParts : Reader Field
  | .closeBracket :: _ => .error .mismatched
  | ts => do
    let (name, ts) ← Reader.text ts
    let (label, ts) ← nextItem? Reader.text? ts
    let (type, ts) ← nextItem? Reader.text? ts
    let (rules, ts) ← nextItem? Reader.text? ts
    let (attributes, ts) ← nextItem? Reader.texts ts
    match ts with
    | .closeBracket :: ts =>
      .ok (⟨name, label.join, type.join, rules.join, attributes.getD .empty⟩, ts)
    | _ => .error .malformed

/-- Read a field. -/
def reader : Reader Field
  | .openBrace :: rest => do
    let (draft, rest) ← Reader.members Draft.readMember Draft.empty rest
    let field ← draft.field?
    .ok (field, rest)
  | .openBracket :: rest => readParts rest
  | ts => .error (Reader.unexpected ts)

/-- Read a field from a text. -/
def ofJsonText (text : String) : Except Fault Field := Reader.run reader text

end WebForm.Field
