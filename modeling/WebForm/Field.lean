import WebForm.OrderedMap
import WebForm.Rule

/-!
# Fields

A field of a form: its name, and optionally a label, an input type, a rule expression and further
attributes of its input. An empty label or rule expression counts as none.
-/

namespace WebForm

/-- A field as defined. -/
structure Field where
  /-- The key of the field in its form and in submitted data. -/
  name : String
  /-- What the field is called in messages. -/
  givenLabel : Option String
  /-- The type of its input. -/
  givenType : Option String
  /-- What is demanded of its value. -/
  givenRules : Option String
  /-- Further attributes of its input. -/
  attributes : OrderedMap String
  deriving DecidableEq

namespace Field

/-- A field with a name only. -/
def ofName (name : String) : Field := ⟨name, none, none, none, .empty⟩

/-- The text, unless it is empty. -/
def filled (text : Option String) : Option String := text.filter fun s => !s.isEmpty

/-- The label, unless it is empty. -/
def label? (field : Field) : Option String := filled field.givenLabel

/-- The label, or the name of a field that has none. -/
def displayName (field : Field) : String := field.label?.getD field.name

/-- The type of an input that does not say. -/
def defaultType : String := "text"

/-- The type of the input. -/
def inputType (field : Field) : String := field.givenType.getD defaultType

/-- The rule expression, unless it is empty. -/
def expression? (field : Field) : Option String := filled field.givenRules

/-- The rules of the field, when it has an expression. -/
def rules? (field : Field) : Option (List Rule) := field.expression?.map Rule.parseAll

end Field

end WebForm
