import WebForm.Field.Json
import WebForm.Form
import WebForm.Registry
import WebForm.Toml.Document

/-!
# Form definitions

A definition is all that an author writes about a form: the attributes of its tag, its fields,
message templates that go before the built-in ones, and the columns that fields are exported to.

It is written in TOML: the tables `form`, `messages` and `export.map`, and the array `fields`. All
of them may be left out, and entries of other names are passed over. A field is given as a table, in
which entries of other names are passed over, or as an array of its five parts in their order, of
which only the name has to be there and further items are passed over.
-/

namespace WebForm

/-- A form as its author defines it. -/
structure Definition where
  /-- The attributes of the form tag. -/
  attributes : OrderedMap String
  /-- The fields in the order of their definition; a name may come again. -/
  fields : List Field
  /-- Message templates, when any are given. -/
  messages : Option Catalog
  /-- Columns by field. -/
  columns : OrderedMap String
  deriving DecidableEq

namespace Definition

/-- A definition that says nothing. -/
def empty : Definition := ⟨.empty, [], none, .empty⟩

/-- The form of a definition. -/
def form (definition : Definition) : Form :=
  (Form.ofAttributes definition.attributes).addFields definition.fields

/-- The built-in templates, and those of the definition in their place. -/
def catalog (definition : Definition) : Catalog :=
  match definition.messages with
  | some messages => Catalog.builtin.merge messages
  | none => Catalog.builtin

/-- The built-in rules with the templates of the definition. -/
def registry (definition : Definition) : Registry := Registry.builtin definition.catalog

/-- A definition as a value, with all its parts. -/
def toJson (definition : Definition) : Json :=
  .object [
    ("form", .ofTexts definition.attributes),
    ("fields", .array (definition.fields.map Field.toJson)),
    ("messages", (definition.messages.map Json.ofTexts).getD .null),
    ("export", .object [("map", .ofTexts definition.columns)])]

end Definition

open Toml (Mismatch Value)

/-! ## Fields in TOML -/

namespace Field

/-- Take one entry of a table. The first component is the name, once it has come. -/
def readEntry (draft : Option String × Field) (entry : String × Value) :
    Except Mismatch (Option String × Field) :=
  let (name, field) := draft
  let (key, value) := entry
  if key = "name" then value.text.map fun s => (some s, { field with name := s })
  else if key = "label" then value.text.map fun s => (name, { field with givenLabel := some s })
  else if key = "type" then value.text.map fun s => (name, { field with givenType := some s })
  else if key = "rules" then value.text.map fun s => (name, { field with givenRules := some s })
  else if key = "attributes" then value.texts.map fun m => (name, { field with attributes := m })
  else .ok draft

/-- A field from the entries of a table. -/
def ofEntries (entries : List (String × Value)) : Except Mismatch Field :=
  match entries.foldlM readEntry (none, ofName "") with
  | .error e => .error e
  | .ok (none, _) => .error (.missing "name")
  | .ok (some _, field) => .ok field

/-- The names of the parts of a field, in the order of an array. -/
def partNames : List String := ["name", "label", "type", "rules", "attributes"]

/-- A field from a value. -/
def ofToml (value : Value) : Except Mismatch Field :=
  match value with
  | .array [] => .error (.length 0 "struct FieldSchema with 5 elements")
  | .array items => ofEntries (partNames.zip items)
  | value =>
    match value.entries? with
    | some entries => ofEntries entries
    | none => .error (.kind value "struct FieldSchema")

end Field

/-! ## Definitions in TOML -/

namespace Definition

/-- Why a text is no definition. -/
inductive Fault where
  /-- It is not TOML. -/
  | malformed
  /-- A part of it is of the wrong shape. -/
  | mismatched (cause : Mismatch)

/-- The columns among the entries of the export table. -/
def columnsOf (entries : List (String × Value)) : Except Mismatch (OrderedMap String) :=
  match entries.lookup "map" with
  | some value => value.texts
  | none => .ok .empty

/-- The columns of a value for the export settings: a table, or an array of its only part. -/
def columnsOfValue (value : Value) : Except Mismatch (OrderedMap String) :=
  match value with
  | .array items => columnsOf (["map"].zip items)
  | value =>
    match value.entries? with
    | some entries => columnsOf entries
    | none => .error (.kind value "struct ExportConfig")

/-- Take one entry of the outermost table. -/
def readEntry (definition : Definition) (entry : String × Value) : Except Mismatch Definition :=
  let (key, value) := entry
  if key = "form" then value.texts.map fun m => { definition with attributes := m }
  else if key = "fields" then
    (value.list Field.ofToml).map fun fields => { definition with fields := fields }
  else if key = "messages" then value.texts.map fun m => { definition with messages := some m }
  else if key = "export" then
    (columnsOfValue value).map fun m => { definition with columns := m }
  else .ok definition

/-- The definition of the entries of the outermost table. -/
def ofEntries (entries : List (String × Value)) : Except Mismatch Definition :=
  entries.foldlM readEntry empty

/-- Read a definition. -/
def ofToml (text : String) : Except Fault Definition :=
  match Toml.parse? text with
  | none => .error .malformed
  | some entries => (ofEntries entries).mapError .mismatched

end Definition

end WebForm
